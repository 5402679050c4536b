import TagRules.Entries
import TagRules.Proofs.Distinct
import Mathlib.Tactic.Tauto

/-!
Reading ordered maps. What is found at a key after a write, which keys there are and in which order, what erasing
leaves, and which entries of a list last when later ones overwrite earlier ones.
-/
namespace TagRules.Entries

variable {κ α : Type} [BEq κ]

lemma get?_cons (k : κ) (a : α) (rest : List (κ × α)) (k' : κ) :
    get? ((k, a) :: rest) k' = if k == k' then some a else get? rest k' := by
  unfold get?
  rw [List.find?_cons]
  cases k == k' <;> rfl

lemma get?_append (es es' : List (κ × α)) (k : κ) : get? (es ++ es') k = (get? es k).or (get? es' k) := by
  simp [get?, Option.map_or]

lemma contains_cons (k : κ) (a : α) (rest : List (κ × α)) (k' : κ) :
    contains ((k, a) :: rest) k' = (k == k' || contains rest k') := rfl

lemma isSome_get? (es : List (κ × α)) (k : κ) : (get? es k).isSome = contains es k := by
  induction es with
  | nil => rfl
  | cons e rest ih =>
    rw [get?_cons, contains_cons, ← ih]
    cases e.1 == k <;> rfl

lemma get?_of_not_contains {es : List (κ × α)} {k : κ} (h : ¬ contains es k) : get? es k = none := by
  rwa [← isSome_get?, Option.not_isSome_iff_eq_none] at h

lemma contains_reverse (es : List (κ × α)) (k : κ) : contains es.reverse k = contains es k := by simp [contains]

lemma get?_reverse_cons_self [ReflBEq κ] (k : κ) (a : α) (rest : List (κ × α)) :
    get? ((k, a) :: rest).reverse k = if contains rest k then get? rest.reverse k else some a := by
  rw [List.reverse_cons, get?_append, get?_cons, if_pos BEq.rfl, ← contains_reverse, ← isSome_get?]
  cases get? rest.reverse k <;> rfl

lemma get?_reverse_cons_of_not_beq {k k' : κ} (h : ¬ k == k') (a : α) (rest : List (κ × α)) :
    get? ((k, a) :: rest).reverse k' = get? rest.reverse k' := by
  rw [List.reverse_cons, get?_append, get?_cons, if_neg h]
  cases get? rest.reverse k' <;> rfl

lemma get?_map_values {β : Type} (es : List (κ × α)) (f : α → β) (k : κ) :
    get? (es.map fun e => (e.1, f e.2)) k = (get? es k).map f := by
  simp [get?, List.find?_map, Function.comp_def]

lemma contains_map_values {β : Type} (es : List (κ × α)) (f : α → β) (k : κ) :
    contains (es.map fun e => (e.1, f e.2)) k = contains es k := by
  simp [contains, Function.comp_def]

lemma get?_map_same [EquivBEq κ] (ks : List κ) (a : α) (k : κ) :
    get? (ks.map fun k' => (k', a)) k = if ks.contains k then some a else none := by
  induction ks with
  | nil => rfl
  | cons k' ks ih =>
    rw [List.map_cons, get?_cons, ih, List.contains_cons, BEq.comm (a := k)]
    cases k' == k <;> rfl

lemma get?_congr [EquivBEq κ] (es : List (κ × α)) {k k' : κ} (h : k == k') : get? es k = get? es k' := by
  unfold get?
  simp only [BEq.congr_right h]

lemma mem_of_get? [LawfulBEq κ] {es : List (κ × α)} {k : κ} {a : α} (h : get? es k = some a) : (k, a) ∈ es := by
  induction es with
  | nil => cases h
  | cons e rest ih =>
    rw [get?_cons] at h
    split at h
    next he =>
      cases h
      rw [← eq_of_beq he]
      exact List.mem_cons_self
    next => exact List.mem_cons_of_mem _ (ih h)

/-- No key stands twice, not even in another spelling. -/
def Apart (es : List (κ × α)) : Prop := (es.map (·.1)).Pairwise fun k k' => ¬ k == k'

lemma apart_iff_nodup [LawfulBEq κ] {es : List (κ × α)} : Apart es ↔ (es.map (·.1)).Nodup := by
  simp [Apart, List.Nodup]

/-- Where no key stands twice, every entry is the one found at its key. -/
lemma Apart.get?_of_mem [ReflBEq κ] {es : List (κ × α)} (hd : Apart es) {k : κ} {a : α} (h : (k, a) ∈ es) :
    get? es k = some a := by
  induction es with
  | nil => cases h
  | cons e rest ih =>
    rw [get?_cons]
    obtain ⟨hne, hd⟩ := List.pairwise_cons.1 hd
    obtain rfl | h := List.mem_cons.1 h
    · simp
    · rw [if_neg (hne k (List.mem_map_of_mem h))]
      exact ih hd h

lemma get?_of_mem [LawfulBEq κ] {es : List (κ × α)} (hd : (es.map (·.1)).Nodup) {k : κ} {a : α}
    (h : (k, a) ∈ es) : get? es k = some a := (apart_iff_nodup.2 hd).get?_of_mem h

/-- Where no key stands twice, the values are what is found at the keys. -/
lemma Apart.exists_get?_iff [ReflBEq κ] {es : List (κ × α)} (hd : Apart es) {a : α} :
    (∃ k, get? es k = some a) ↔ ∃ k, (k, a) ∈ es := by
  constructor
  · rintro ⟨k, h⟩
    obtain ⟨e, he, rfl⟩ := Option.map_eq_some_iff.1 h
    exact ⟨e.1, List.mem_of_find?_eq_some he⟩
  · rintro ⟨k, h⟩
    exact ⟨k, hd.get?_of_mem h⟩

/-- Where no key stands twice, a map is its keys with what is found at them. -/
lemma Apart.eq_map_keys [ReflBEq κ] {es : List (κ × α)} (hd : Apart es) {g : κ → α}
    (hg : ∀ k a, get? es k = some a → g k = a) : es = (es.map (·.1)).map fun k => (k, g k) := by
  rw [List.map_map]
  refine (List.map_id es).symm.trans (List.map_congr_left fun e he => ?_)
  exact Prod.ext rfl (hg e.1 e.2 (hd.get?_of_mem he)).symm

lemma exists_get?_of_mem_keys [ReflBEq κ] {es : List (κ × α)} {k : κ} (h : k ∈ es.map (·.1)) :
    ∃ a, get? es k = some a := by
  induction es with
  | nil => cases h
  | cons e rest ih =>
    rw [get?_cons]
    by_cases he : e.1 == k
    · exact ⟨e.2, if_pos he⟩
    · rw [if_neg he]
      obtain rfl | h := List.mem_cons.1 h
      · exact absurd (BEq.refl _) he
      · exact ih h

/-- A write shows at its key and nowhere else. -/
theorem get?_update [EquivBEq κ] (es : List (κ × α)) (k : κ) (f : Option α → α) (k' : κ) :
    get? (update es k f) k' = if k == k' then some (f (get? es k)) else get? es k' := by
  induction es with
  | nil => rw [update_nil, get?_cons]; rfl
  | cons e rest ih =>
    obtain ⟨k₀, a⟩ := e
    by_cases h : k₀ == k
    · rw [update_of_beq a rest f h, get?_cons, get?_cons, get?_cons, if_pos h, BEq.congr_left h]
      split <;> rfl
    · rw [update_of_not_beq a rest f h, get?_cons, get?_cons, get?_cons, if_neg h, ih]
      by_cases hk : k₀ == k'
      · have hn : ¬ k == k' := fun hk' => h (BEq.trans hk (BEq.symm hk'))
        rw [if_pos hk, if_pos hk, if_neg hn]
      · rw [if_neg hk, if_neg hk]

theorem get?_extend [EquivBEq κ] (es : List (κ × List α)) (k : κ) (as : List α) (k' : κ) :
    get? (extend es k as) k' = if k == k' then some ((get? es k).getD [] ++ as) else get? es k' :=
  get?_update es k _ k'

/-- A write keeps the keys in their places; a new one goes to the end. -/
theorem keys_update (es : List (κ × α)) (k : κ) (f : Option α → α) :
    (update es k f).map (·.1) = if contains es k then es.map (·.1) else es.map (·.1) ++ [k] := by
  induction es with
  | nil => rfl
  | cons e rest ih =>
    obtain ⟨k₀, a⟩ := e
    rw [contains_cons]
    by_cases h : k₀ == k
    · rw [update_of_beq a rest f h, h]
      rfl
    · rw [update_of_not_beq a rest f h, List.map_cons, ih]
      simp only [h, Bool.false_or, List.map_cons]
      split <;> rfl

lemma contains_eq_keys (es : List (κ × α)) (k : κ) : contains es k = (es.map (·.1)).any (· == k) := by
  simp [contains, Function.comp_def]

lemma keys_update_eq_addNew [EquivBEq κ] (es : List (κ × α)) (k : κ) (f : Option α → α) :
    (update es k f).map (·.1) = addNew (es.map (·.1)) k := by
  have hc : (es.map (·.1)).contains k = contains es k := by
    rw [contains_eq_keys, List.contains_eq_any_beq]
    simp only [BEq.comm (a := k)]
  rw [keys_update, addNew, hc]

lemma Apart.update {es : List (κ × α)} (h : Apart es) (k : κ) (f : Option α → α) : Apart (update es k f) := by
  unfold Apart
  rw [keys_update]
  split
  · exact h
  next hc =>
    rw [contains_eq_keys] at hc
    rw [List.pairwise_append]
    refine ⟨h, List.pairwise_singleton _ _, ?_⟩
    intro a ha b hb hab
    rw [List.mem_singleton] at hb
    exact hc (List.any_eq_true.2 ⟨a, ha, hb ▸ hab⟩)

lemma nodup_update [LawfulBEq κ] {es : List (κ × α)} (h : (es.map (·.1)).Nodup) (k : κ) (f : Option α → α) :
    ((update es k f).map (·.1)).Nodup := apart_iff_nodup.1 ((apart_iff_nodup.2 h).update k f)

lemma ofList_concat (es : List (κ × α)) (e : κ × α) : ofList (es ++ [e]) = put (ofList es) e.1 e.2 := by
  rw [ofList, List.foldl_append]
  rfl

lemma apart_ofList (es : List (κ × α)) : Apart (ofList es) := by
  induction es using List.reverseRecOn with
  | nil => exact .nil
  | append_singleton es e ih =>
    rw [ofList_concat]
    exact ih.update e.1 _

/-- Of the entries with one key the last one counts. -/
theorem get?_ofList [EquivBEq κ] (es : List (κ × α)) (k : κ) : get? (ofList es) k = get? es.reverse k := by
  induction es using List.reverseRecOn with
  | nil => rfl
  | append_singleton es e ih => rw [ofList_concat, put, get?_update, List.reverse_concat, get?_cons, ih]

/-- What a map holds was entered, under one spelling of its key or another. -/
lemma exists_mem_of_mem_ofList [EquivBEq κ] {es : List (κ × α)} {k : κ} {a : α} (h : (k, a) ∈ ofList es) :
    ∃ k', (k', a) ∈ es := by
  obtain ⟨k', hk⟩ := (apart_ofList es).exists_get?_iff.2 ⟨k, h⟩
  rw [get?_ofList] at hk
  obtain ⟨⟨k₁, a₁⟩, he, rfl⟩ := Option.map_eq_some_iff.1 hk
  exact ⟨k₁, List.mem_reverse.1 (List.mem_of_find?_eq_some he)⟩

/-- What is in a map after a write was there before, or has been written. -/
lemma mem_update [LawfulBEq κ] {es : List (κ × α)} {k : κ} {f : Option α → α} {e : κ × α} (h : e ∈ update es k f) :
    e ∈ es ∨ e = (k, f none) ∨ ∃ a, (k, a) ∈ es ∧ e = (k, f (some a)) := by
  induction es with
  | nil => exact .inr (.inl (List.mem_singleton.1 h))
  | cons e₀ rest ih =>
    obtain ⟨k₀, a⟩ := e₀
    by_cases hk : k₀ == k
    · rw [update_of_beq a rest f hk] at h
      obtain rfl := eq_of_beq hk
      obtain rfl | h := List.mem_cons.1 h
      · exact .inr (.inr ⟨a, List.mem_cons_self, rfl⟩)
      · exact .inl (List.mem_cons_of_mem _ h)
    · rw [update_of_not_beq a rest f hk] at h
      obtain rfl | h := List.mem_cons.1 h
      · exact .inl List.mem_cons_self
      · obtain h | h | ⟨a', ha', h⟩ := ih h
        · exact .inl (List.mem_cons_of_mem _ h)
        · exact .inr (.inl h)
        · exact .inr (.inr ⟨a', List.mem_cons_of_mem _ ha', h⟩)

lemma update_update [ReflBEq κ] (es : List (κ × α)) (k : κ) (f g : Option α → α) :
    update (update es k f) k g = update es k fun old => g (some (f old)) := by
  induction es with
  | nil => exact update_of_beq _ _ _ (BEq.refl k)
  | cons e rest ih =>
    obtain ⟨k₀, a⟩ := e
    by_cases h : k₀ == k
    · rw [update_of_beq a rest _ h, update_of_beq _ rest _ h, update_of_beq a rest _ h]
    · rw [update_of_not_beq a rest _ h, update_of_not_beq a _ _ h, update_of_not_beq a rest _ h, ih]

lemma extend_extend [ReflBEq κ] (es : List (κ × List α)) (k : κ) (as bs : List α) :
    extend (extend es k as) k bs = extend es k (as ++ bs) := by
  simp only [extend, update_update, Option.getD_some, List.append_assoc]

lemma keys_foldl_extend [EquivBEq κ] {β : Type} (key : β → κ) (values : β → List α) (bs : List β)
    (es : List (κ × List α)) :
    (bs.foldl (fun es b => extend es (key b) (values b)) es).map (·.1) = (bs.map key).foldl addNew (es.map (·.1)) := by
  induction bs generalizing es with
  | nil => rfl
  | cons b bs ih =>
    rw [List.foldl_cons, ih, extend, keys_update_eq_addNew]
    rfl

/-- The keys are among those that something was appended at. -/
lemma keys_foldl_extend_subset [EquivBEq κ] {β : Type} (key : β → κ) (values : β → List α) (bs : List β) :
    (bs.foldl (fun es b => extend es (key b) (values b)) []).map (·.1) ⊆ bs.map key := by
  rw [keys_foldl_extend, List.map_nil, foldl_addNew_nil]
  exact eraseDups_subset _

/-- What is appended at a key is there with what was there before. -/
lemma mem_flatMap_extend (es : List (κ × List α)) (k : κ) (as : List α) (a : α) :
    a ∈ (extend es k as).flatMap (·.2) ↔ a ∈ es.flatMap (·.2) ++ as := by
  unfold extend
  induction es with
  | nil => simp
  | cons e rest ih =>
    obtain ⟨k', bs⟩ := e
    by_cases h : k' == k
    · rw [update_of_beq bs rest _ h]
      simp only [List.flatMap_cons, Option.getD_some, List.mem_append]
      tauto
    · rw [update_of_not_beq bs rest _ h]
      simp only [List.flatMap_cons, List.mem_append, ih]
      tauto

lemma update_of_not_contains {es : List (κ × α)} {k : κ} (h : contains es k = false) (f : Option α → α) :
    update es k f = es ++ [(k, f none)] := by
  induction es with
  | nil => rfl
  | cons e rest ih =>
    obtain ⟨k₀, a⟩ := e
    rw [contains_cons, Bool.or_eq_false_iff] at h
    rw [update_of_not_beq a rest f (by simp [h.1]), ih h.2]
    rfl

lemma Apart.of_append {es es' : List (κ × α)} (h : Apart (es ++ es')) : Apart es := by
  rw [Apart, List.map_append] at h
  exact (List.pairwise_append.1 h).1

lemma Apart.not_contains {es : List (κ × α)} {e : κ × α} (h : Apart (es ++ [e])) : contains es e.1 = false := by
  rw [Apart, List.map_append, List.pairwise_append] at h
  rw [contains_eq_keys, List.any_eq_false]
  exact fun k hk => h.2.2 k hk e.1 List.mem_cons_self

lemma Apart.not_contains_of_cons {es es' : List (κ × α)} {e : κ × α} (h : Apart (es ++ e :: es')) :
    contains es e.1 = false := by
  rw [List.append_cons] at h
  exact h.of_append.not_contains

lemma ofList_of_apart {es : List (κ × α)} (h : Apart es) : ofList es = es := by
  induction es using List.reverseRecOn with
  | nil => rfl
  | append_singleton es e ih =>
    rw [ofList_concat, ih h.of_append, put, update_of_not_contains h.not_contains]

/-- The keys stand in the order in which they come up first. -/
lemma keys_ofList [EquivBEq κ] (es : List (κ × α)) : (ofList es).map (·.1) = (es.map (·.1)).eraseDups := by
  induction es using List.reverseRecOn with
  | nil => rfl
  | append_singleton es e ih =>
    rw [ofList_concat, put, keys_update_eq_addNew, ih, ← eraseDups_concat, List.map_append]
    rfl

lemma foldl_extend_extend [ReflBEq κ] (k : κ) (as bs : List α) (es : List (κ × List α)) :
    as.foldl (fun es a => extend es k [a]) (extend es k bs) = extend es k (bs ++ as) := by
  induction as generalizing bs with
  | nil =>
    rw [List.append_nil]
    rfl
  | cons a as ih =>
    rw [List.foldl_cons, extend_extend, ih, List.append_assoc]
    rfl

/-- Values that are entered one by one at a new key stand together at the end. -/
lemma foldl_extend_of_not_contains [ReflBEq κ] {es : List (κ × List α)} {k : κ} (h : contains es k = false)
    (as : List α) : as.foldl (fun es a => extend es k [a]) es = es ++ [(k, as)].filter (!·.2.isEmpty) := by
  cases as with
  | nil => simp
  | cons a as =>
    rw [List.foldl_cons, foldl_extend_extend, extend, update_of_not_contains h]
    rfl

/-- Lists of values that are laid out one value after the other, each with the key of its list, are found again where no
key stands twice; of an empty list nothing is left. -/
theorem foldl_extend_flatMap [ReflBEq κ] {groups : List (κ × List α)} (h : Apart groups) :
    (groups.flatMap fun g => g.2.map (Prod.mk g.1)).foldl (fun es p => extend es p.1 [p.2]) [] =
      groups.filter (!·.2.isEmpty) := by
  -- What is there when the rest is entered has none of its keys.
  have hfrom : ∀ es, Apart (es ++ groups) →
      (groups.flatMap fun g => g.2.map (Prod.mk g.1)).foldl (fun es p => extend es p.1 [p.2]) es =
        es ++ groups.filter (!·.2.isEmpty) := by
    clear h
    induction groups with
    | nil => simp
    | cons g groups ih =>
      intro es h
      have hrest : Apart ((es ++ [g].filter (!·.2.isEmpty)) ++ groups) := by
        refine List.Pairwise.sublist (List.Sublist.map _ ?_) h
        rw [List.append_assoc]
        exact (List.Sublist.refl es).append (List.filter_sublist.append (List.Sublist.refl groups))
      rw [List.flatMap_cons, List.foldl_append, List.foldl_map, foldl_extend_of_not_contains h.not_contains_of_cons,
        ih _ hrest, List.append_assoc, ← List.filter_append]
      rfl
  exact hfrom [] h

/-- The entries with no other entry of their key behind them. -/
def lasting : List (κ × α) → List (κ × α)
  | [] => []
  | e :: rest => if contains rest e.1 then lasting rest else e :: lasting rest

/-- The entries with another entry of their key behind them. -/
def overwritten : List (κ × α) → List (κ × α)
  | [] => []
  | e :: rest => if contains rest e.1 then e :: overwritten rest else overwritten rest

/-- All values of a key, one after the other. -/
def under (es : List (κ × List α)) (k : κ) : List α := (es.filter (·.1 == k)).flatMap (·.2)

/-- An entry lasts where it is the last one of its key. -/
lemma mem_lasting [LawfulBEq κ] {es : List (κ × α)} {k : κ} {a : α} :
    (k, a) ∈ lasting es ↔ get? es.reverse k = some a := by
  induction es with
  | nil => simp [lasting, get?]
  | cons e rest ih =>
    obtain ⟨k₀, a₀⟩ := e
    rw [lasting]
    by_cases hk : k₀ = k
    · subst hk
      rw [get?_reverse_cons_self]
      split
      next => exact ih
      next hc =>
        rw [get?_of_not_contains (by rwa [contains_reverse])] at ih
        simp [ih, eq_comm]
    · rw [get?_reverse_cons_of_not_beq (by simpa using hk), ← ih]
      split
      next => rfl
      next => simp [Ne.symm hk]

lemma lasting_sublist (es : List (κ × α)) : (lasting es).Sublist es := by
  induction es with
  | nil => exact .slnil
  | cons e rest ih =>
    unfold lasting
    split
    · exact ih.cons e
    · exact ih.cons_cons e

lemma apart_lasting [EquivBEq κ] (es : List (κ × α)) : Apart (lasting es) := by
  induction es with
  | nil => exact .nil
  | cons e rest ih =>
    unfold lasting
    split
    next => exact ih
    next hc =>
      refine List.pairwise_cons.2 ⟨fun k hk he => hc ?_, ih⟩
      rw [contains_eq_keys, List.any_eq_true]
      exact ⟨k, ((lasting_sublist rest).map _).subset hk, BEq.symm he⟩

/-- A map made of a list has the entries that last, in some order. -/
theorem ofList_perm_lasting [LawfulBEq κ] (es : List (κ × α)) : (ofList es).Perm (lasting es) := by
  have hn : ∀ {xs : List (κ × α)}, Apart xs → xs.Nodup := fun h =>
    List.Pairwise.of_map (·.1) (fun _ _ hne he => hne (congrArg _ he)) (apart_iff_nodup.1 h)
  rw [List.perm_ext_iff_of_nodup (hn (apart_ofList es)) (hn (apart_lasting es))]
  rintro ⟨k, a⟩
  rw [mem_lasting, ← get?_ofList]
  exact ⟨(apart_ofList es).get?_of_mem, mem_of_get?⟩

lemma under_cons (k : κ) (as : List α) (rest : List (κ × List α)) (k' : κ) :
    under ((k, as) :: rest) k' = (if k == k' then as else []) ++ under rest k' := by
  unfold under
  rw [List.filter_cons]
  cases k == k' <;> rfl

lemma under_of_not_contains {es : List (κ × List α)} {k : κ} (h : ¬ contains es k) : under es k = [] := by
  rw [under, List.filter_eq_nil_iff.2 (by simpa [contains] using h)]
  rfl

/-- The values of a key are those that are overwritten and, behind them, those of the last entry. -/
theorem under_eq [LawfulBEq κ] (es : List (κ × List α)) (k : κ) :
    under es k = under (overwritten es) k ++ (get? es.reverse k).getD [] := by
  induction es with
  | nil => rfl
  | cons e rest ih =>
    obtain ⟨k₀, as⟩ := e
    rw [under_cons, overwritten]
    by_cases hk : k₀ = k
    · subst hk
      rw [get?_reverse_cons_self, if_pos BEq.rfl]
      split
      next => rw [under_cons, if_pos BEq.rfl, ih, List.append_assoc]
      next hc =>
        -- Nothing of the key comes behind, so nothing of it is overwritten.
        have hl : get? rest.reverse k₀ = none := get?_of_not_contains (by rwa [contains_reverse])
        rw [under_of_not_contains hc, hl] at ih
        have ho : under (overwritten rest) k₀ = [] := by simpa using ih.symm
        rw [under_of_not_contains hc, ho, List.append_nil]
        rfl
    · have hu : under (if contains rest k₀ then (k₀, as) :: overwritten rest else overwritten rest) k =
          under (overwritten rest) k := by
        split
        next => simp [under_cons, hk]
        next => rfl
      rw [hu, get?_reverse_cons_of_not_beq (by simpa using hk), if_neg (by simpa using hk), List.nil_append, ih]

lemma lasting_append_overwritten_perm (es : List (κ × α)) : (lasting es ++ overwritten es).Perm es := by
  induction es with
  | nil => exact .nil
  | cons e rest ih =>
    unfold lasting overwritten
    split
    · exact List.perm_middle.trans (ih.cons e)
    · exact ih.cons e

lemma keys_erase (es : List (κ × α)) (k : κ) : (erase es k).map (·.1) = (es.map (·.1)).filter (!· == k) := by
  rw [erase, List.filter_map]
  rfl

/-- Nothing is found at a key that was erased, and at other keys what was there. -/
theorem get?_erase [EquivBEq κ] (es : List (κ × α)) (k k' : κ) :
    get? (erase es k) k' = if k == k' then none else get? es k' := by
  induction es with
  | nil => simp [erase, get?]
  | cons e rest ih =>
    obtain ⟨k₀, a⟩ := e
    unfold erase at ih ⊢
    by_cases h : k₀ == k
    · rw [List.filter_cons_of_neg (by simpa using h), ih, get?_cons, BEq.congr_left h]
      split <;> rfl
    · rw [List.filter_cons_of_pos (by simpa using h), get?_cons, get?_cons, ih]
      by_cases hk : k₀ == k'
      · have hn : ¬ k == k' := fun hk' => h (BEq.trans hk (BEq.symm hk'))
        rw [if_pos hk, if_neg hn, if_pos hk]
      · rw [if_neg hk, if_neg hk]

end TagRules.Entries
