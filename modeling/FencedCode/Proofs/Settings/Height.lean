import FencedCode.Proofs.Editor.View
import Mathlib.Data.Nat.Basic
import Mathlib.Order.Monotone.Defs

/-!
# The height of an editor

The height for a number of lines is computed in steps, and each of them stays at the greatest number
of pixels where it would exceed it.  Together the steps lose nothing: they give what one limit at
the end would.  A number that was limited is too great to become smaller by what comes later.  The
one step that could make it smaller, lines without a height, does not depend on the number at all.
-/

namespace FencedCode

namespace Settings

/-! ### Limits -/

theorem toNat_saturate (value : Nat) : (saturate value).toNat = min value (UInt32.size - 1) := by
  have fits : min value (UInt32.size - 1) < UInt32.size :=
    Nat.lt_of_le_of_lt (Nat.min_le_right ..) (by decide)
  exact UInt32.toNat_ofNat_of_lt' fits

theorem toNat_max (left right : UInt32) :
    (max left right).toNat = max left.toNat right.toNat := by
  change (if left ≤ right then right else left).toNat = _
  split
  · next le => rw [Nat.max_eq_right (UInt32.le_iff_toNat_le.mp le)]
  · next notLe =>
    rw [UInt32.le_iff_toNat_le] at notLe
    rw [Nat.max_eq_left (Nat.le_of_not_le notLe)]

/-- A number of lines may be limited before it is multiplied by their height. -/
theorem saturate_toNat_saturate_mul (lines height : Nat) :
    saturate ((saturate lines).toNat * height) = saturate (lines * height) := by
  rw [← UInt32.toNat_inj, toNat_saturate, toNat_saturate, toNat_saturate]
  cases height with
  | zero => rfl
  | succ height =>
      rcases Nat.le_total lines (UInt32.size - 1) with fits | exceeds
      · rw [Nat.min_eq_left fits]
      · -- A line of some height is at least one pixel high, so both products exceed the limit.
        have grows : ∀ count, count ≤ count * (height + 1) :=
          fun count => Nat.le_mul_of_pos_right count height.succ_pos
        rw [Nat.min_eq_right exceeds, Nat.min_eq_right (grows _),
          Nat.min_eq_right (Nat.le_trans exceeds (grows lines))]

/-- A number of pixels may be limited before others are added. -/
theorem saturate_toNat_saturate_add (pixels padding : Nat) :
    saturate ((saturate pixels).toNat + padding) = saturate (pixels + padding) := by
  rw [← UInt32.toNat_inj, toNat_saturate, toNat_saturate, toNat_saturate]
  omega

/-! ### Heights -/

/-- The height that a number of lines asks for, without a limit. -/
def exactHeight (settings : Settings) (lines : Nat) : Nat :=
  max settings.minHeight.toNat (lines * settings.lineHeight.toNat + settings.heightPadding.toNat)

theorem toNat_initialHeight (settings : Settings) (lines : Nat) :
    (settings.initialHeight lines).toNat = min (UInt32.size - 1) (settings.exactHeight lines) := by
  have least := settings.minHeight.toNat_lt_size
  rw [initialHeight, saturate_toNat_saturate_mul, saturate_toNat_saturate_add, toNat_max,
    toNat_saturate, exactHeight]
  omega

theorem exactHeight_mono (settings : Settings) : Monotone settings.exactHeight := by
  intro few many fewer
  have scaled := Nat.mul_le_mul_right settings.lineHeight.toNat fewer
  rw [exactHeight, exactHeight]
  omega

/-- The height is limited once and exact below the limit, and more lines never make it smaller. -/
theorem initialHeight_saturates_exactly (settings : Settings) :
    (∀ lines : Nat, (settings.initialHeight lines).toNat =
      min (UInt32.size - 1) (max settings.minHeight.toNat
        (lines * settings.lineHeight.toNat + settings.heightPadding.toNat))) ∧
    Monotone fun lines => (settings.initialHeight lines).toNat := by
  refine ⟨settings.toNat_initialHeight, ?_⟩
  intro few many fewer
  have exact := settings.exactHeight_mono fewer
  dsimp only
  rw [toNat_initialHeight, toNat_initialHeight]
  omega

/-- Lines without a height take no room, however many they are. -/
example : ({ lineHeight := 0 } : Settings).initialHeight 18446744073709551615 = 80 := by decide

end Settings

namespace Widget

open Operation

/-- A widget is as high as the lines of its latest text ask for. -/
theorem toNat_height_after_ofRaw (engine : Engine) (registry : Registry) (settings : Settings)
    (saves : Bool) (raw : String) (history : List Operation) :
    ((ofRaw registry settings saves raw).after engine history).height.toNat =
      min (UInt32.size - 1)
        (settings.exactHeight ((textAfter raw history).toList.splitOn '\n').length) := by
  have shows := (shows_ofRaw registry settings saves raw).after engine history
  rw [List.nil_append] at shows
  rw [← settings.toNat_initialHeight]
  exact congrArg (fun view => view.height.toNat) shows.view_eq

end Widget

end FencedCode
