import TagRules.Proofs.Grammar.Collected
import TagRules.Proofs.Grammar.Print
import TagRules.Proofs.Token.Concatenation

/-!
Expressions are put together as texts. What a text stands for depends on what its tokens say alone, so sources that can
be parsed can be put in parentheses, behind a negation and on both sides of a connective, whatever blanks they begin or
end with; and what the parser collects of the whole is what it collects of the parts.
-/
namespace TagRules
open Grammar Token

namespace Grammar

/-- What is between parentheses, in other tokens that say the same. -/
lemma exists_of_content_group {l r : Token} {ts us : List Token}
    (h : us.map content = (l :: (ts ++ [r])).map content) : ∃ l' vs r', us = l' :: (vs ++ [r']) ∧
      l'.kind = l.kind ∧ vs.map content = ts.map content ∧ r'.kind = r.kind := by
  rw [List.map_cons, List.map_append] at h
  obtain ⟨l', us, rfl, hl, h⟩ := List.map_eq_cons_iff.1 h
  obtain ⟨vs, ws, rfl, hv, h⟩ := List.map_eq_append_iff.1 h
  obtain ⟨r', ws, rfl, hr, h⟩ := List.map_eq_cons_iff.1 h
  obtain rfl := List.map_eq_nil_iff.1 h
  exact ⟨l', vs, r', rfl, (Prod.mk.inj hl).1, hv, (Prod.mk.inj hr).1⟩

/-- A phrase is told by what its tokens say, wherever they stand. -/
theorem Derives.congr {phrase : Phrase} {ts us : List Token} {e : Expr} (h : Derives phrase ts e)
    (hc : us.map content = ts.map content) : Derives phrase us e := by
  induction h generalizing us with
  | @anywhere t hk =>
    obtain ⟨u, us, rfl, hu, hn⟩ := List.map_eq_cons_iff.1 hc
    obtain rfl := List.map_eq_nil_iff.1 hn
    obtain ⟨hku, hvu⟩ := Prod.mk.inj hu
    rw [← hvu]
    exact .anywhere (hku.trans hk)
  | @under t p hk hp =>
    obtain ⟨u, us, rfl, hu, hc⟩ := List.map_eq_cons_iff.1 hc
    obtain ⟨q, us, rfl, hq, hn⟩ := List.map_eq_cons_iff.1 hc
    obtain rfl := List.map_eq_nil_iff.1 hn
    obtain ⟨hku, hvu⟩ := Prod.mk.inj hu
    obtain ⟨hkq, hvq⟩ := Prod.mk.inj hq
    rw [← hvu, ← hvq]
    exact .under (hku.trans hk) (hkq.trans hp)
  | literal _ ih => exact .literal (ih hc)
  | notLiteral hn _ ih =>
    obtain ⟨m, us, rfl, hm, hc⟩ := List.map_eq_cons_iff.1 hc
    exact .notLiteral ((Prod.mk.inj hm).1.trans hn) (ih hc)
  | group hl _ hr ih =>
    obtain ⟨l', vs, r', rfl, hl', hv, hr'⟩ := exists_of_content_group hc
    exact .group (hl'.trans hl) (ih hv) (hr'.trans hr)
  | notGroup hn hl _ hr ih =>
    obtain ⟨m, us, rfl, hm, hc⟩ := List.map_eq_cons_iff.1 hc
    obtain ⟨l', vs, r', rfl, hl', hv, hr'⟩ := exists_of_content_group hc
    exact .notGroup ((Prod.mk.inj hm).1.trans hn) (hl'.trans hl) (ih hv) (hr'.trans hr)
  | operand _ ih => exact .operand (ih hc)
  | chain op _ ho _ iha ihb =>
    rw [List.map_append, List.map_cons] at hc
    obtain ⟨us, vs, rfl, hu, hv⟩ := List.map_eq_append_iff.1 hc
    obtain ⟨o', vs, rfl, ho', hv⟩ := List.map_eq_cons_iff.1 hv
    exact .chain op (iha hu) ((Prod.mk.inj ho').1.trans ho) (ihb hv)

end Grammar
namespace Reads

variable {caseSensitive : Bool} {cs : List Char} {said : List Content}

lemma not_isWordPart_head {c : Char} (hc : Scan.isWordPart c = false) (cs : List Char) :
    ∀ d ∈ (c :: cs).head?, ¬ Scan.isWordPart d := by
  intro d hd
  obtain rfl : c = d := by simpa using hd
  simp [hc]

lemma negation (h : Reads caseSensitive cs said) :
    Reads caseSensitive ('n' :: 'o' :: 't' :: ' ' :: cs) ((.not, "not") :: said) := by
  have hk : Scan.keyword? caseSensitive ['n', 'o', 't'] = some .not := by cases caseSensitive <;> rfl
  exact .word rfl (List.all_eq_true.1 rfl) hk (not_isWordPart_head rfl cs) (.blank rfl h)

lemma connective (op : Connective) (h : Reads caseSensitive cs said) :
    Reads caseSensitive (' ' :: (op.word.toList ++ ' ' :: cs)) ((op.tokenKind, op.word) :: said) := by
  refine .blank rfl ?_
  cases op with
  | and =>
    have hk : Scan.keyword? caseSensitive ['a', 'n', 'd'] = some .and := by cases caseSensitive <;> rfl
    exact .word rfl (List.all_eq_true.1 rfl) hk (not_isWordPart_head rfl cs) (.blank rfl h)
  | or =>
    have hk : Scan.keyword? caseSensitive ['o', 'r'] = some .or := by cases caseSensitive <;> rfl
    exact .word rfl (List.all_eq_true.1 rfl) hk (not_isWordPart_head rfl cs) (.blank rfl h)

end Reads
namespace Grammar

/-- A text stands for an expression as a phrase of some sort: what it says derives the expression. -/
def Stands (caseSensitive : Bool) (phrase : Phrase) (text : List Char) (e : Expr) : Prop :=
  ∃ ts : List Token, Reads caseSensitive text (ts.map content) ∧ Derives phrase ts e

lemma sentence_iff_stands {source : String} {caseSensitive : Bool} {e : Expr} :
    Sentence source caseSensitive e ↔ Stands caseSensitive .expression source.toList e := by
  constructor
  · intro h
    obtain ⟨us, position, hi, hp, he⟩ := sentence_iff.1 h
    exact ⟨_, Feed.reads_of_items hp hi, he⟩
  · rintro ⟨ts, hr, he⟩
    obtain ⟨us, position, hi, hp, hc⟩ := hr.says 0
    exact sentence_iff.2 ⟨us, position, hi, hp, he.congr hc⟩

namespace Stands

variable {caseSensitive : Bool} {phrase : Phrase} {text more : List Char} {e a b : Expr}

lemma group (h : Stands caseSensitive .expression text e) :
    Stands caseSensitive .operand ('(' :: (text ++ [')'])) e := by
  obtain ⟨ts, hr, hd⟩ := h
  refine ⟨⟨.lparen, "(", 0⟩ :: (ts ++ [⟨.rparen, ")", 0⟩]), ?_, .group rfl hd rfl⟩
  rw [List.map_cons, List.map_append]
  exact .lparen (hr.append (.rparen .nil) (Reads.not_isWordPart_head rfl []))

lemma notGroup (h : Stands caseSensitive .expression text e) :
    Stands caseSensitive .operand ('n' :: 'o' :: 't' :: ' ' :: '(' :: (text ++ [')'])) (.not e) := by
  obtain ⟨ts, hr, hd⟩ := h
  refine ⟨⟨.not, "not", 0⟩ :: ⟨.lparen, "(", 0⟩ :: (ts ++ [⟨.rparen, ")", 0⟩]), ?_, .notGroup rfl rfl hd rfl⟩
  rw [List.map_cons, List.map_cons, List.map_append]
  exact .negation (.lparen (hr.append (.rparen .nil) (Reads.not_isWordPart_head rfl [])))

lemma chain (ha : Stands caseSensitive .expression text a) (op : Connective)
    (hb : Stands caseSensitive .operand more b) :
    Stands caseSensitive .expression (text ++ ' ' :: (op.word.toList ++ ' ' :: more)) (.binary op a b) := by
  obtain ⟨ts, hr, hd⟩ := ha
  obtain ⟨us, hr', hd'⟩ := hb
  refine ⟨ts ++ ⟨op.tokenKind, op.word, 0⟩ :: us, ?_, .chain op hd rfl hd'⟩
  rw [List.map_append, List.map_cons]
  exact hr.append (.connective op hr') (Reads.not_isWordPart_head rfl _)

lemma operand (h : Stands caseSensitive .operand text e) : Stands caseSensitive .expression text e := by
  obtain ⟨ts, hr, hd⟩ := h
  exact ⟨ts, hr, .operand hd⟩

end Stands
end Grammar

/-- A source that is parsed as an expression, and the names and paths that the parser has collected. -/
structure ParsedAs (source : String) (caseSensitive : Bool) (e : Expr) (tags fieldPaths : List String) : Prop where
  parse_eq : parse source caseSensitive = .ok e
  tags_eq : (Parser.ofSource source caseSensitive).parse.2.memory.tags = tags
  fieldPaths_eq : (Parser.ofSource source caseSensitive).parse.2.memory.fieldPaths = fieldPaths

lemma Grammar.Stands.parsedAs {source : String} {text : List Char} {caseSensitive : Bool} {e : Expr}
    (h : Stands caseSensitive .expression text e) (hs : source.toList = text) :
    ParsedAs source caseSensitive e e.names.eraseDups e.scopes.eraseDups := by
  rw [← hs] at h
  obtain ⟨p, hp, ht, hf⟩ := (sentence_iff_stands.2 h).collected
  constructor
  case parse_eq => rw [parse, hp]
  case tags_eq => rw [hp, ht]
  case fieldPaths_eq => rw [hp, hf]

/-- Sources that can be parsed are put together as texts, whatever blanks they begin or end with: parentheses around one
leave its expression, and negate it behind a negation; two with a connective between them are the expression of both,
whether the left one has parentheses around it or not. What the parser collects is what it collects of the first, and
behind it what is new in the second. -/
theorem parse_composed {a b : String} {caseSensitive : Bool} {x y : Expr} (ha : parse a caseSensitive = .ok x)
    (hb : parse b caseSensitive = .ok y) :
    let m := (Parser.ofSource a caseSensitive).parse.2.memory
    let n := (Parser.ofSource b caseSensitive).parse.2.memory
    let tags := (m.tags ++ n.tags).eraseDups
    let fieldPaths := (m.fieldPaths ++ n.fieldPaths).eraseDups
    ParsedAs ("(" ++ a ++ ")") caseSensitive x m.tags m.fieldPaths ∧
    ParsedAs ("not (" ++ a ++ ")") caseSensitive (.not x) m.tags m.fieldPaths ∧
    ∀ op : Connective,
      ParsedAs ("(" ++ a ++ ") " ++ op.word ++ " (" ++ b ++ ")") caseSensitive (.binary op x y) tags fieldPaths ∧
      ParsedAs (a ++ " " ++ op.word ++ " (" ++ b ++ ")") caseSensitive (.binary op x y) tags fieldPaths := by
  have hx : Stands caseSensitive .expression a.toList x := sentence_iff_stands.1 (parse_eq_ok_iff.1 ha)
  have hy : Stands caseSensitive .expression b.toList y := sentence_iff_stands.1 (parse_eq_ok_iff.1 hb)
  have hm := hx.parsedAs rfl
  have hn := hy.parsedAs rfl
  dsimp only
  rw [hm.tags_eq, hm.fieldPaths_eq, hn.tags_eq, hn.fieldPaths_eq, eraseDups_append_eraseDups,
    eraseDups_append_eraseDups]
  refine ⟨hx.group.operand.parsedAs (by simp), ?_, fun op => ⟨?_, ?_⟩⟩
  · rw [← x.names_not, ← x.scopes_not]
    exact hx.notGroup.operand.parsedAs (by simp)
  · rw [← Expr.names_binary op, ← Expr.scopes_binary op]
    exact (hx.group.operand.chain op hy.group).parsedAs (by simp)
  · rw [← Expr.names_binary op, ← Expr.scopes_binary op]
    exact (hx.chain op hy.group).parsedAs (by simp)

/-- Blanks on both sides of the seams, another casing and names in both sources. -/
theorem parse_composed_spaced :
    let a := "\"b:y\" OR \"a\"  "
    let b := "\tnot\"a:y\"AND\"c:x\" "
    let x : Expr := .binary .or (.unit ⟨"b", "y"⟩) (.unit ⟨"a", ""⟩)
    let y : Expr := .binary .and (.not (.unit ⟨"a", "y"⟩)) (.unit ⟨"c", "x"⟩)
    parse a false = .ok x ∧ parse b false = .ok y ∧
    ParsedAs "\"b:y\" OR \"a\"   and (\tnot\"a:y\"AND\"c:x\" )" false (.binary .and x y)
      ["b", "a", "c"] ["y", "x"] := by
  intro a b x y
  have ha : parse a false = .ok x := by decide +kernel
  have hb : parse b false = .ok y := by decide +kernel
  have hm : (Parser.ofSource a false).parse.2.memory = ⟨0, ["b", "a"], ["y"]⟩ := by decide +kernel
  have hn : (Parser.ofSource b false).parse.2.memory = ⟨0, ["a", "c"], ["y", "x"]⟩ := by decide +kernel
  have h := ((parse_composed ha hb).2.2 .and).2
  rw [hm, hn] at h
  exact ⟨ha, hb, h⟩

end TagRules
