import Gazetteer.Geo.Coordinate
import Gazetteer.Geo.Distance
import Gazetteer.Store.Engine
import Mathlib

/-!
# Numbers by their value

There are two zeros among the floats, and they differ in nothing but their sign. One of the engines
keeps the positive one only, so what is computed from a stored number may not depend on the sign of
a zero.

* `unsigned`: a number with the one zero.
* `unsigned_cases`: numbers of the same value are the same, or both zero.
* `sub_alike`, `mul_alike`, ...: the operations on numbers of the same value.
-/

set_option autoImplicit false

namespace Gazetteer

open Float (Model)
open Float.Model (UnpackedFloat)

/-- The number with the positive zero for either one. -/
def unsigned (x : Float) : Float := if x == 0 then 0 else x

theorem unsigned_unsigned (x : Float) : unsigned (unsigned x) = unsigned x := by
  unfold unsigned
  split
  · split <;> rfl
  · rfl

theorem unsigned_keptFloat (e : Engine) (x : Float) : unsigned (e.keptFloat x) = unsigned x := by
  cases e with
  | memory => rfl
  | sqlite => exact unsigned_unsigned x

/-! ## The two zeros -/

/-- One of the two zeros. -/
def IsZero (x : Float) : Prop := ∃ s, x.toModel.unpack = .zero s

theorem unpack_zero : (0 : Float).toModel.unpack = .zero .positive := rfl

theorem isZero_iff (x : Float) : (x == 0) = true ↔ IsZero x := by
  show (x.toModel.unpack.compare (0 : Float).toModel.unpack == some .eq) = true ↔ _
  rw [unpack_zero, IsZero]
  cases x.toModel.unpack with
  | notANumber => simp [UnpackedFloat.compare]
  | infinity s => cases s <;> simp [UnpackedFloat.compare]
  | zero s => simp [UnpackedFloat.compare]
  | finite s m e h => cases s <;> simp [UnpackedFloat.compare]

/-- Numbers of the same value are the same, or both zero. -/
theorem unsigned_cases {x y : Float} (h : unsigned x = unsigned y) :
    x = y ∨ (IsZero x ∧ IsZero y) := by
  unfold unsigned at h
  split at h
  · next hx =>
    split at h
    · next hy => exact .inr ⟨(isZero_iff x).1 hx, (isZero_iff y).1 hy⟩
    · next hy =>
      rw [← h] at hy
      exact absurd rfl hy
  · next hx =>
    split at h
    · next hy =>
      rw [h] at hx
      exact absurd rfl hx
    · exact .inl h

theorem unsigned_of_isZero {x : Float} (h : IsZero x) : unsigned x = 0 :=
  if_pos ((isZero_iff x).2 h)

theorem isZero_pack (s : UnpackedFloat.Sign) : IsZero (.ofModel (.pack (.zero s))) := by
  cases s
  · exact ⟨.negative, rfl⟩
  · exact ⟨.positive, rfl⟩

/-- Packed zeros have the same value. -/
theorem unsigned_pack_zero (s s' : UnpackedFloat.Sign) :
    unsigned (.ofModel (.pack (.zero s))) = unsigned (.ofModel (.pack (.zero s'))) := by
  rw [unsigned_of_isZero (isZero_pack s), unsigned_of_isZero (isZero_pack s')]

/-! ## Operations -/

variable {x x' : Float}

/-- An operation that sees of a zero only that it is one sees no difference between numbers of the
same value. -/
theorem alike_of_zeros {α : Type} {f : Float → α} (h : unsigned x = unsigned x')
    (zeros : ∀ s s', x.toModel.unpack = .zero s → x'.toModel.unpack = .zero s' → f x = f x') :
    f x = f x' := by
  obtain rfl | ⟨⟨s, hs⟩, s', hs'⟩ := unsigned_cases h
  · rfl
  · exact zeros s s' hs hs'

theorem le_iff (x y : Float) : x ≤ y ↔ x.toModel.unpack.le y.toModel.unpack = true :=
  decide_eq_true_iff

theorem le_right_alike (h : unsigned x = unsigned x') (y : Float) : (y ≤ x) = (y ≤ x') := by
  refine alike_of_zeros h ?_
  intro s s' hs hs'
  rw [le_iff, le_iff, hs, hs']
  cases y.toModel.unpack with
  | finite s => cases s <;> rfl
  | infinity s => cases s <;> rfl
  | _ => rfl

theorem le_left_alike (h : unsigned x = unsigned x') (y : Float) : (x ≤ y) = (x' ≤ y) := by
  refine alike_of_zeros (f := fun x => x ≤ y) h ?_
  intro s s' hs hs'
  rw [le_iff, le_iff, hs, hs']
  cases y.toModel.unpack with
  | finite s => cases s <;> rfl
  | infinity s => cases s <;> rfl
  | _ => rfl

theorem abs_alike (h : unsigned x = unsigned x') : x.abs = x'.abs := by
  refine alike_of_zeros h ?_
  intro s s' hs hs'
  show Float.ofModel (.pack x.toModel.unpack.abs) = .ofModel (.pack x'.toModel.unpack.abs)
  rw [hs, hs']
  rfl

theorem sub_right_alike (h : unsigned x = unsigned x') (y : Float) :
    unsigned (y - x) = unsigned (y - x') := by
  refine alike_of_zeros (f := fun x => unsigned (y - x)) h ?_
  intro s s' hs hs'
  show unsigned (.ofModel (.pack (.sub .binary64 y.toModel.unpack x.toModel.unpack))) =
    unsigned (.ofModel (.pack (.sub .binary64 y.toModel.unpack x'.toModel.unpack)))
  rw [hs, hs']
  cases y.toModel.unpack with
  | zero t =>
    rw [UnpackedFloat.sub, UnpackedFloat.sub]
    split <;> split <;> exact unsigned_pack_zero _ _
  | _ => rfl

theorem sub_left_alike (h : unsigned x = unsigned x') (y : Float) :
    unsigned (x - y) = unsigned (x' - y) := by
  refine alike_of_zeros (f := fun x => unsigned (x - y)) h ?_
  intro s s' hs hs'
  show unsigned (.ofModel (.pack (.sub .binary64 x.toModel.unpack y.toModel.unpack))) =
    unsigned (.ofModel (.pack (.sub .binary64 x'.toModel.unpack y.toModel.unpack)))
  rw [hs, hs']
  cases y.toModel.unpack with
  | zero t =>
    rw [UnpackedFloat.sub, UnpackedFloat.sub]
    split <;> split <;> exact unsigned_pack_zero _ _
  | _ => rfl

theorem mul_alike (h : unsigned x = unsigned x') (y : Float) :
    unsigned (x * y) = unsigned (x' * y) := by
  refine alike_of_zeros (f := fun x => unsigned (x * y)) h ?_
  intro s s' hs hs'
  show unsigned (.ofModel (.pack (.mul .binary64 x.toModel.unpack y.toModel.unpack))) =
    unsigned (.ofModel (.pack (.mul .binary64 x'.toModel.unpack y.toModel.unpack)))
  rw [hs, hs']
  cases y.toModel.unpack with
  | zero t => exact unsigned_pack_zero _ _
  | finite t => exact unsigned_pack_zero _ _
  | _ => rfl

theorem div_alike (h : unsigned x = unsigned x') (y : Float) :
    unsigned (x / y) = unsigned (x' / y) := by
  refine alike_of_zeros (f := fun x => unsigned (x / y)) h ?_
  intro s s' hs hs'
  show unsigned (.ofModel (.pack (.div .binary64 x.toModel.unpack y.toModel.unpack))) =
    unsigned (.ofModel (.pack (.div .binary64 x'.toModel.unpack y.toModel.unpack)))
  rw [hs, hs']
  cases y.toModel.unpack with
  | infinity t => exact unsigned_pack_zero _ _
  | finite t => exact unsigned_pack_zero _ _
  | _ => rfl

/-! ## Places -/

theorem between_alike (h : unsigned x = unsigned x') (low high : Float) :
    between low high x = between low high x' := by
  rw [between, between]
  simp only [le_right_alike h, le_left_alike h]

theorem contains_alike (w : Window) {lon lon' lat lat' : Float}
    (hlon : unsigned lon = unsigned lon') (hlat : unsigned lat = unsigned lat') :
    w.contains lon lat = w.contains lon' lat' := by
  rw [Window.contains, Window.contains, abs_alike (sub_left_alike hlon w.longitude),
    abs_alike (sub_left_alike hlat w.latitude)]

theorem radians_alike (h : unsigned x = unsigned x') :
    unsigned (radians x) = unsigned (radians x') :=
  div_alike (mul_alike h pi) 180.0

/-- Angles enter a distance without their sign, so that of a zero is of no account either. -/
theorem haversine_alike {lat lat' lon lon' : Float} (hlat : unsigned lat = unsigned lat')
    (hlon : unsigned lon = unsigned lon') (lat₂ lon₂ : Float) :
    haversine lat lon lat₂ lon₂ = haversine lat' lon' lat₂ lon₂ := by
  have dLat := abs_alike (div_alike (radians_alike (sub_right_alike hlat lat₂)) 2.0)
  have dLon := abs_alike (div_alike (radians_alike (sub_right_alike hlon lon₂)) 2.0)
  have cosine := abs_alike (radians_alike hlat)
  rw [haversine, haversine, dLat, dLon, cosine]

end Gazetteer
