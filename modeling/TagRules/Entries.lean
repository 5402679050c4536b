/-!
Ordered maps as lists of entries. A new key goes to the end; writing to a key that is present keeps its
place and its first spelling.
-/
namespace TagRules.Entries

variable {κ α : Type} [BEq κ]

def get? (es : List (κ × α)) (k : κ) : Option α := (es.find? (·.1 == k)).map (·.2)

def contains (es : List (κ × α)) (k : κ) : Bool := es.any (·.1 == k)

/-- Changes the value at a key, or enters the key at the end. -/
def update (es : List (κ × α)) (k : κ) (f : Option α → α) : List (κ × α) :=
  match es with
  | [] => [(k, f none)]
  | (k', a) :: rest => if k' == k then (k', f (some a)) :: rest else (k', a) :: update rest k f

def put (es : List (κ × α)) (k : κ) (a : α) : List (κ × α) := update es k fun _ => a

def extend (es : List (κ × List α)) (k : κ) (as : List α) : List (κ × List α) :=
  update es k fun old => old.getD [] ++ as

def erase (es : List (κ × α)) (k : κ) : List (κ × α) := es.filter fun e => !(e.1 == k)

/-- The entries of a list, later ones overwriting earlier ones. -/
def ofList (pairs : List (κ × α)) : List (κ × α) := pairs.foldl (fun es e => put es e.1 e.2) []

@[simp] theorem update_nil (k : κ) (f : Option α → α) : update [] k f = [(k, f none)] := rfl

theorem update_of_beq {k k' : κ} (a : α) (rest : List (κ × α)) (f : Option α → α) (h : k' == k) :
    update ((k', a) :: rest) k f = (k', f (some a)) :: rest := by
  simp [update, h]

theorem update_of_not_beq {k k' : κ} (a : α) (rest : List (κ × α)) (f : Option α → α) (h : ¬ k' == k) :
    update ((k', a) :: rest) k f = (k', a) :: update rest k f := by
  simp [update, h]

end TagRules.Entries
