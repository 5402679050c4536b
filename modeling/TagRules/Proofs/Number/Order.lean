import TagRules.Number.Compare
import Mathlib.Data.EReal.Basic
import Mathlib.Tactic.Lemma

/-!
The order of numbers is that of the extended real line. Every integer, and every float that is a number, stands for one
point of it, and comparing two of them compares these points; nothing is rounded on the way.
-/
namespace TagRules
namespace Place

/-- The point of a place. -/
noncomputable def toEReal : Place → EReal
  | .bottom => ⊥
  | .inner d => ((d.toRat : ℝ) : EReal)
  | .top => ⊤

lemma lt_iff (p q : Place) : p.lt q = true ↔ p.toEReal < q.toEReal := by
  cases p with
  | bottom => cases q <;> simp [lt, toEReal, EReal.bot_lt_coe]
  | top => cases q <;> simp [lt, toEReal]
  | inner d =>
    cases q with
    | bottom => simp [lt, toEReal]
    | top => simp [lt, toEReal, EReal.coe_lt_top]
    | inner e =>
      rw [lt_inner, decide_eq_true_iff, ← Dyadic.toRat_lt_toRat_iff]
      simp [toEReal]

end Place
namespace Number

/-- The exact value of a number; a float is its mantissa times two to its exponent, or one of the ends. -/
noncomputable def extended? : Number → Option EReal
  | .int n => some ((n : ℝ) : EReal)
  | .float (.nan _) => none
  | .float (.infinite negative) => some (if negative then ⊥ else ⊤)
  | .float (.finite negative m e) => some (((if negative then -(m : ℝ) else m) * 2 ^ e : ℝ) : EReal)

lemma extended?_eq_none {x : Number} : x.extended? = none ↔ ∃ payload, x = .float (.nan payload) := by
  cases x with
  | int n => simp [extended?]
  | float x => cases x <;> simp [extended?]

lemma map_toEReal_place? (x : Number) : x.place?.map Place.toEReal = x.extended? := by
  cases x with
  | int n => simp [place?, extended?, Place.toEReal, Dyadic.toRat_ofIntWithPrec_eq_mul_two_pow]
  | float x =>
    cases x with
    | nan payload => rfl
    | infinite negative => cases negative <;> rfl
    | finite negative m e =>
      cases negative <;>
        simp [place?, extended?, Binary64.value?, Place.toEReal, Dyadic.toRat_ofIntWithPrec_eq_mul_two_pow]

/-- Of two numbers with values, one is below the other when its value is. -/
theorem lt_iff {x y : Number} {u v : EReal} (hx : x.extended? = some u) (hy : y.extended? = some v) :
    x.lt y = true ↔ u < v := by
  rw [← map_toEReal_place?, Option.map_eq_some_iff] at hx hy
  obtain ⟨p, hp, rfl⟩ := hx
  obtain ⟨q, hq, rfl⟩ := hy
  rw [lt, hp, hq]
  exact p.lt_iff q

end Number
end TagRules
