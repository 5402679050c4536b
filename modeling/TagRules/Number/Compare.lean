import TagRules.Number.Binary64

/-!
The order of integers and floats together. Both stand for places on the line of numbers with two ends,
so an integer of any size is compared with a float by their exact values.
-/
namespace TagRules

inductive Number
  | int (n : Int)
  | float (x : Binary64)
  deriving DecidableEq, Repr, Inhabited

/-- A place on the line of numbers with its two ends. -/
inductive Place
  | bottom
  | inner (d : Dyadic)
  | top

namespace Place

def lt : Place → Place → Bool
  | .bottom, .bottom => false
  | .bottom, _ => true
  | .inner _, .bottom => false
  | .inner d, .inner e => decide (d < e)
  | .inner _, .top => true
  | .top, _ => false

@[simp] theorem lt_inner (d e : Dyadic) : lt (.inner d) (.inner e) = decide (d < e) := rfl

end Place

namespace Number

/-- Where a number stands; what is no number stands nowhere. -/
def place? : Number → Option Place
  | .int n => some (.inner (Dyadic.ofIntWithPrec n 0))
  | .float (.infinite negative) => some (if negative then .bottom else .top)
  | .float x => x.value?.map .inner

/-- Whether one number is below another; never for what is no number. -/
def lt (a b : Number) : Bool :=
  match a.place?, b.place? with
  | some p, some q => p.lt q
  | _, _ => false

end Number
end TagRules
