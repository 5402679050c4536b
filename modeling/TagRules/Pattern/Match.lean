import TagRules.Pattern.Single
import TagRules.Pattern.Spot

/-!
Matching a pattern at a spot. `run p c k s` looks for a way in which `p` matches at the spot `s` and the
continuation `k` succeeds behind it; ways are tried in the order of the pattern. When all ways are lost,
the place that was tried last is known: a possessive repetition goes on from there when no further round
succeeds. A repetition makes no further round where the last one began, so each round but the first uses up
text, and the length of the text bounds the rounds.
-/
namespace TagRules.Pattern

/-- What is left when all ways are lost: the place that was tried last, and the bounds set on the way. -/
structure Loss where
  tried : Nat
  bounds : Bounds

inductive Outcome
  | found (s : Spot)
  | lost (l : Loss)

namespace Outcome

def isFound : Outcome → Bool
  | found _ => true
  | lost _ => false

/-- Goes on with what is left of a lost search. -/
def orElse (o : Outcome) (next : Loss → Outcome) : Outcome :=
  match o with
  | .found s => .found s
  | .lost l => next l

@[simp] theorem orElse_found (s : Spot) (next : Loss → Outcome) : (found s).orElse next = .found s := rfl

@[simp] theorem orElse_lost (l : Loss) (next : Loss → Outcome) : (lost l).orElse next = next l := rfl

end Outcome

/-- What is left when there is no way at all from a spot. -/
def Spot.loss (s : Spot) : Loss := ⟨s.tried, s.bounds⟩

def Spot.lost (s : Spot) : Outcome := .lost s.loss

/-- The loss of a search that leaves off where it began. -/
def Spot.leaveOff (s : Spot) (l : Loss) : Outcome := .lost { l with tried := s.position }

/-- A spot after a way from there was lost. Bounds set on that way are dropped. Inside rounds all bounds
are again what they were. -/
def Spot.again (s : Spot) (inRounds : Bool) (l : Loss) : Spot :=
  { s with tried := l.tried, bounds := if inRounds then s.bounds else l.bounds.first s.bounds.size }

/-- A matcher: looks for a way on that ends well for what comes behind. -/
abbrev Matcher := (Spot → Outcome) → Spot → Outcome

/-- What holds where a pattern is matched: the flags, whether it is inside the rounds of a repetition, and
the exact character that comes behind, if there must be one. -/
structure Context where
  flags : Flags
  inRounds : Bool
  next : Option Nat

namespace Context

def closed (c : Context) : Context := { c with next := none }

/-- The context of a pattern in front of another one. -/
def before (c : Context) (q : Pattern) : Context :=
  match q.lead c.flags with
  | .nothing => c
  | .letter code => { c with next := some code }
  | _ => c.closed

end Context
namespace Matcher

/-- One way to match, kept for good. -/
def once (m : Matcher) (s : Spot) : Outcome := m .found s

def single (o : Single) : Matcher := fun k s =>
  match s.next? with
  | some (c, s') => if o.test c then k s' else s.lost
  | none => s.lost

/-- An alternative. It is not tried where its first character cannot stand. -/
def branch (first : Lead) (m : Matcher) : Matcher := fun k s =>
  if first.refuses s.after.head? then s.lost else m k s.reached

def either (inRounds : Bool) (m n : Matcher) : Matcher := fun k s =>
  (m k s).orElse fun l => (n k (s.again inRounds l)).orElse fun l => (s.again inRounds l).lost

/-- Rounds of a matcher, as many as possible first. `count` rounds are done, and `last` is where the last
free one began. -/
def mostRounds (m : Matcher) (min : Nat) (max : Option Nat) (k : Spot → Outcome) :
    Nat → Nat → Option Nat → Spot → Outcome
  | 0, _, _, s => k s
  | fuel + 1, count, last, s =>
    if count < min then (m (mostRounds m min max k fuel (count + 1) last) s.reached).orElse s.leaveOff
    else if max.any (· ≤ count) || last = some s.position then (k s.reached).orElse s.leaveOff
    else (m (mostRounds m min max k fuel (count + 1) (some s.position)) s.reached).orElse fun _ =>
      (k s.reached).orElse s.leaveOff

/-- Rounds of a matcher, as few as possible first. -/
def fewestRounds (m : Matcher) (min : Nat) (max : Option Nat) (inRounds : Bool) (k : Spot → Outcome) :
    Nat → Nat → Option Nat → Spot → Outcome
  | 0, _, _, s => k s
  | fuel + 1, count, last, s =>
    if count < min then
      (m (fewestRounds m min max inRounds k fuel (count + 1) last) s.reached).orElse s.leaveOff
    else (k s.reached).orElse fun l =>
      let s := (s.again inRounds l).reached
      if max.any (· ≤ count) || last = some s.position then s.lost
      else (m (fewestRounds m min max inRounds k fuel (count + 1) (some s.position)) s).orElse s.leaveOff

/-- Rounds that are kept once they are done: the spot where the text goes on. -/
def keptRounds (m : Matcher) (min : Nat) (max : Option Nat) (start : Spot) :
    Nat → Nat → Option Nat → Spot → Outcome
  | 0, _, _, s => .found s
  | fuel + 1, count, last, s =>
    if count < min then
      match m.once s.reached with
      | .found s' => keptRounds m min max start fuel (count + 1) last s'
      | .lost l => start.leaveOff l
    else if max.any (· ≤ count) || last = some s.position then .found s
    else match m.once s.reached with
      | .found s' => keptRounds m min max start fuel (count + 1) (some s.position) s'
      | .lost l => .found (s.moved l.tried)

/-- Some number of rounds between bounds. -/
def repeated (m : Matcher) (greed : Greed) (min : Nat) (max : Option Nat) (inRounds : Bool) : Matcher := fun k s =>
  let fuel := min + s.after.length + 3
  match greed with
  | .most => mostRounds m min max k fuel 0 none s
  | .fewest => fewestRounds m min max inRounds k fuel 0 none s
  | .possessive => match keptRounds m min max s fuel 0 none s with
    | .found t => k t.reached
    | .lost l => .lost l

/-- The spots behind single characters, farthest first, given those found so far. -/
def places (o : Single) (max : Option Nat) : List Char → Nat → Spot → List Spot → List Spot
  | [], _, _, found => found
  | c :: rest, count, s, found =>
    match s.next? with
    | some (_, s') =>
      if o.test c && max.all (count < ·) then places o max rest (count + 1) s' (s' :: found) else found
    | none => found

/-- The first spot from which there is a way on. -/
def firstOf (inRounds : Bool) (k : Spot → Outcome) : List Spot → Spot → Outcome
  | [], s => s.lost
  | t :: ts, s =>
    (k { t with tried := t.position, bounds := s.bounds }).orElse fun l => firstOf inRounds k ts (s.again inRounds l)

/-- More single characters one by one, and a way on as soon as there is one. -/
def fewestSingles (o : Single) (max : Option Nat) (inRounds : Bool) (k : Spot → Outcome) :
    Nat → Nat → Spot → Outcome
  | 0, _, s => s.lost
  | fuel + 1, count, s =>
    if max.any (· < count) then s.lost
    else (k s.reached).orElse fun l =>
      let s := (s.again inRounds l).reached
      match s.next? with
      | some (c, s') =>
        if o.test c then fewestSingles o max inRounds k fuel (count + 1) (if o.isFolded then s'.reached else s')
        else s.lost
      | none => s.lost

/-- Some number of single characters. Where an exact character must come behind, only the places in front
of one are tried. -/
def singles (o : Single) (greed : Greed) (min : Nat) (max : Option Nat) (c : Context) : Matcher := fun k s =>
  if (s.after.take min).length < min then s.lost else
  let limit := if greed = .fewest then some min else max
  let found := places o limit s.after 0 s [s]
  let s := { s with tried := if o.isFolded then s.position + found.length - 1 else s.position }
  let enough := found.take (found.length - min)
  match greed with
  | .most =>
    firstOf c.inRounds k (enough.filter fun t => c.next.all fun code => t.after.head?.any (·.toNat == code)) s
  | .fewest => match enough with
    | t :: _ => fewestSingles o max c.inRounds k (t.after.length + 1) min { t with tried := s.tried }
    | [] => s.lost
  | .possessive => match enough with
    | t :: _ => k { t with tried := s.tried }
    | [] => s.lost

end Matcher

def run : Pattern → Context → Matcher
  | .empty, _ => fun k s => k s
  | .literal negated code, c => .single (.ofLiteral negated code c.flags)
  | .oneOf negated members, c => .single (.ofMembers negated members c.flags)
  | .any, c => .single (.any c.flags)
  | .anchor a, c => fun k s => if s.holds c.flags a then k s else s.lost
  | .seq p q, c => fun k s => run p (c.before q) (run q c k) s
  | .alt p q, c =>
    .either c.inRounds (.branch (p.lead c.flags) (run p c.closed))
      (if q.isAlt then run q c.closed else .branch (q.lead c.flags) (run q c.closed))
  | .repeated greed min max p, c =>
    match p.single? c.flags with
    | some o => .singles o greed min max c
    | none => .repeated (run p ⟨c.flags, greed != .possessive || c.inRounds, none⟩) greed min max c.inRounds
  | .capture group p, c => fun k s =>
    run p c.closed (fun t => k (t.bound (2 * (group - 1) + 1))) (s.bound (2 * (group - 1)))
  | .flagged on off p, c => run p { c with flags := c.flags.within on off }
  | .atomic p, c => fun k s =>
    match (run p c.closed).once s.reached with
    | .found t => k t.reached
    | .lost l => s.leaveOff l
  | .ahead negated p, c => fun k s =>
    match (run p c.closed).once s.reached, negated with
    | .found t, false => k { s with tried := t.position, bounds := t.bounds }
    | .found t, true => .lost ⟨t.position, t.bounds⟩
    | .lost l, false => .lost l
    | .lost l, true => k (s.again c.inRounds l)
  | .behind negated width p, c => fun k s =>
    match s.back? width.min with
    | none => if negated then k s else s.lost
    | some b => match (run p c.closed).once b.reached, negated with
      | .found t, false => k { s with tried := t.position, bounds := t.bounds }
      | .found t, true => .lost ⟨t.position, t.bounds⟩
      | .lost l, false => .lost l
      | .lost l, true => k (s.again c.inRounds l)
  | .back group, c => fun k s =>
    match (s.kept? group).bind (s.skip? c.flags.folding) with
    | some t => k t
    | none => s.lost
  | .conditional group yes no, c => fun k s =>
    if (s.bounds.group? group).isSome then run yes (if no = .empty then c else c.closed) k s else run no c k s

end TagRules.Pattern
