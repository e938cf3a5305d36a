import Mathlib.Data.List.DropRight
import SeedScript.Proofs.Json.Tokens

/-!
# Arrays and objects as they are read

A reader reads a grammar when it reads the texts of the grammar and no others (`Reader.Reads`). The
readers of arrays and objects read what stands between brackets, and a whole text with blanks around
it, exactly when the readers of their parts do (`Reader.Reads.items_eq_ok_iff`,
`Reader.Reads.members_eq_ok_iff`, `Reader.Reads.document_eq_ok_iff`). What a reader of members makes
of them is told by the step that each of them takes (`TakesSteps`).
-/

namespace SeedScript.Json

variable {α β σ : Type}

/-! ## Blanks -/

theorem skipBlanks_cons {c : Char} (h : isBlank c = false) (cs : List Char) :
    skipBlanks (c :: cs) = c :: cs := by
  rw [skipBlanks, List.dropWhile_cons, h]
  rfl

theorem skipBlanks_append {w : List Char} (hw : Blanks w) (cs : List Char) :
    skipBlanks (w ++ cs) = skipBlanks cs :=
  List.dropWhile_append_of_pos hw

theorem exists_blanks (cs : List Char) : ∃ w, Blanks w ∧ cs = w ++ skipBlanks cs :=
  ⟨cs.takeWhile isBlank, fun _ hc => List.mem_takeWhile_imp hc,
    List.takeWhile_append_dropWhile.symm⟩

theorem Blanks.append {v w : List Char} (hv : Blanks v) (hw : Blanks w) : Blanks (v ++ w) :=
  fun c hc => (List.mem_append.1 hc).elim (hv c) (hw c)

/-- A text begins with a character that is not blank and closes no array. -/
def BeginsValue (cs : List Char) : Prop := ∃ c rest, cs = c :: rest ∧ isBlank c = false ∧ c ≠ ']'

theorem BeginsValue.append {cs : List Char} (h : BeginsValue cs) (ds : List Char) :
    BeginsValue (cs ++ ds) := by
  obtain ⟨c, rest, rfl, hblank, hclose⟩ := h
  exact ⟨c, rest ++ ds, rfl, hblank, hclose⟩

theorem BeginsValue.skipBlanks_eq {cs : List Char} (h : BeginsValue cs) : skipBlanks cs = cs := by
  obtain ⟨c, rest, rfl, hblank, -⟩ := h
  exact skipBlanks_cons hblank rest

theorem BeginsValue.ne_nil {cs : List Char} (h : BeginsValue cs) : cs ≠ [] := by
  obtain ⟨c, rest, rfl, -, -⟩ := h
  exact List.cons_ne_nil c rest

/-- What may follow the text of a value: a blank, a comma, a closing bracket, or nothing. -/
def EndsValue (cs : List Char) : Prop :=
  ∀ c ∈ cs.head?, isBlank c = true ∨ c = ',' ∨ c = ']' ∨ c = '\x7d'

theorem endsValue_nil : EndsValue [] := fun c hc => by cases hc

theorem endsValue_cons {c : Char} (h : c = ',' ∨ c = ']' ∨ c = '\x7d') (cs : List Char) :
    EndsValue (c :: cs) := by
  intro e he
  cases he
  exact .inr h

theorem EndsValue.blanks_append {w cs : List Char} (h : EndsValue cs) (hw : Blanks w) :
    EndsValue (w ++ cs) := by
  cases w with
  | nil => exact h
  | cons c w =>
    intro e he
    cases he
    exact .inl (hw c List.mem_cons_self)

theorem EndsValue.stopsNumber {cs : List Char} (h : EndsValue cs) : StopsNumber cs := by
  intro c hc
  rcases h c hc with hblank | rfl | rfl | rfl
  · simp only [isBlank, Bool.or_eq_true, beq_iff_eq] at hblank
    rcases hblank with ((rfl | rfl) | rfl) | rfl <;> decide
  · decide
  · decide
  · decide

/-! ## Readers of a grammar -/

/-- What is read is a text of the grammar, and every text of the grammar is read where a value may
end. -/
structure Reader.Reads (read : Reader α) (spells : List Char → α → Prop) : Prop where
  begins : ∀ {text a}, spells text a → BeginsValue text
  of_read : ∀ {cs a rest}, read cs = .ok (a, rest) → ∃ text, spells text a ∧ cs = text ++ rest
  read_append : ∀ {text a rest}, spells text a → EndsValue rest →
    read (text ++ rest) = .ok (a, rest)

section Items

variable {spells : List Char → α → Prop} {text body w : List Char} {a : α} {as : List α}

theorem Padded.blanks_append (h : Padded spells text a) (hw : Blanks w) :
    Padded spells (w ++ text) a := by
  obtain ⟨before, core, after, hbefore, hafter, hcore, rfl⟩ := h
  exact ⟨w ++ before, core, after, hw.append hbefore, hafter, hcore,
    (List.append_assoc _ _ _).symm⟩

theorem SpellsItems.single (h : Padded spells text a) : SpellsItems spells text [a] := by
  rw [← commas_singleton text]
  exact .items (List.cons_ne_nil _ _) (.cons h .nil)

theorem SpellsItems.cons (ha : Padded spells text a) (h : SpellsItems spells body as)
    (hne : as ≠ []) : SpellsItems spells (text ++ ',' :: body) (a :: as) := by
  cases h with
  | blank hw => exact absurd rfl hne
  | @items texts _ htexts h =>
    obtain ⟨t, texts, rfl⟩ := List.exists_cons_of_ne_nil htexts
    rw [← commas_cons_cons]
    exact .items (List.cons_ne_nil _ _) (.cons ha h)

theorem SpellsItems.blanks_append (h : SpellsItems spells body as) (hw : Blanks w) :
    SpellsItems spells (w ++ body) as := by
  cases h with
  | blank hw' => exact .blank (hw.append hw')
  | items htexts h =>
    cases h with
    | nil => exact absurd rfl htexts
    | cons ha h =>
      cases h with
      | nil =>
        rw [commas_singleton]
        exact .single (ha.blanks_append hw)
      | cons hb h =>
        rw [commas_cons_cons, ← List.append_assoc]
        exact .cons (ha.blanks_append hw) (.items (List.cons_ne_nil _ _) (.cons hb h))
          (List.cons_ne_nil _ _)

/-- Items that are all of one form are spelled as what they have this form of. -/
theorem SpellsItems.of_map {spells : List Char → β → Prop} {f : α → β}
    (h : SpellsItems spells body (as.map f)) :
    SpellsItems (fun text a => spells text (f a)) body as := by
  generalize hbs : as.map f = bs at h
  cases h with
  | blank hw =>
    obtain rfl := List.map_eq_nil_iff.1 hbs
    exact .blank hw
  | items hne h =>
    subst hbs
    have hparts := List.forall₂_map_right_iff.1 h
    exact .items hne hparts

end Items

/-! ## Arrays -/

/-- Before a value, an array goes on. -/
theorem items_of_beginsValue {item : Reader α} {cs : List Char} (h : BeginsValue cs) :
    items item cs = itemsFrom item (cs.length + 1) cs := by
  obtain ⟨c, rest, rfl, hblank, hclose⟩ := h
  rw [items, skipBlanks_cons hblank]
  split
  · rename_i heq
    exact absurd (List.cons_eq_cons.1 heq).1 hclose
  · rename_i heq
    exact absurd heq (List.cons_ne_nil c rest)
  · rfl

theorem itemsFrom_last {item : Reader α} {a : α} {cs next rest : List Char}
    (h : item cs = .ok (a, next)) (hclose : skipBlanks next = ']' :: rest) (bound : Nat) :
    itemsFrom item (bound + 1) cs = .ok ([a], rest) := by
  rw [itemsFrom, h]
  simp only [bind, Except.bind, hclose]

theorem itemsFrom_next {item : Reader α} {a : α} {as : List α} {bound : Nat}
    {cs next tail rest : List Char} (h : item cs = .ok (a, next))
    (hcomma : skipBlanks next = ',' :: tail) (hbegins : BeginsValue (skipBlanks tail))
    (htail : itemsFrom item bound (skipBlanks tail) = .ok (as, rest)) :
    itemsFrom item (bound + 1) cs = .ok (a :: as, rest) := by
  rw [itemsFrom, h]
  simp only [bind, Except.bind, hcomma]
  obtain ⟨c, later, heq, -, hclose⟩ := hbegins
  rw [heq] at htail ⊢
  split
  · rename_i hcons
    exact absurd (List.cons_eq_cons.1 hcons).1 hclose
  · rename_i hnil
    exact absurd hnil (List.cons_ne_nil c later)
  · rw [htail]

theorem beginsValue_skipBlanks {cs : List Char} (hend : skipBlanks cs ≠ [])
    (hclose : ∀ tail, skipBlanks cs ≠ ']' :: tail) : BeginsValue (skipBlanks cs) := by
  obtain ⟨c, tail, heq⟩ := List.exists_cons_of_ne_nil hend
  refine ⟨c, tail, heq, ?_, fun hc => hclose tail (hc ▸ heq)⟩
  have hhead := List.head?_dropWhile_not isBlank cs
  rw [skipBlanks] at heq
  rw [heq] at hhead
  simpa using hhead

/-- After an item the array is closed, or a comma and another item follow. -/
theorem itemsFrom_cases {item : Reader α} {bound : Nat} {cs rest : List Char} {as : List α}
    (h : itemsFrom item (bound + 1) cs = .ok (as, rest)) :
    ∃ a next, item cs = .ok (a, next) ∧
      ((skipBlanks next = ']' :: rest ∧ as = [a]) ∨
        ∃ tail bs, skipBlanks next = ',' :: tail ∧ BeginsValue (skipBlanks tail) ∧
          itemsFrom item bound (skipBlanks tail) = .ok (bs, rest) ∧ as = a :: bs) := by
  rw [itemsFrom] at h
  obtain ⟨⟨a, next⟩, ha, h⟩ := bind_eq_ok_iff.1 h
  refine ⟨a, next, ha, ?_⟩
  dsimp only at h
  split at h
  · rename_i hclose
    cases h
    exact .inl ⟨hclose, rfl⟩
  · rename_i tail hcomma
    split at h
    · cases h
    · cases h
    · rename_i hclose hend
      obtain ⟨⟨bs, rest'⟩, hbs, h⟩ := bind_eq_ok_iff.1 h
      cases h
      exact .inr ⟨tail, bs, hcomma, beginsValue_skipBlanks hend hclose, hbs, rfl⟩
  · cases h

section Arrays

variable {item : Reader α} {spells : List Char → α → Prop} {cs rest body : List Char} {as : List α}

theorem Reader.Reads.of_itemsFrom (h : item.Reads spells) {bound : Nat}
    (hread : itemsFrom item bound cs = .ok (as, rest)) :
    as ≠ [] ∧ ∃ body, SpellsItems spells body as ∧ cs = body ++ ']' :: rest := by
  induction bound generalizing cs as with
  | zero => cases hread
  | succ bound ih =>
    obtain ⟨a, next, ha, hnext⟩ := itemsFrom_cases hread
    obtain ⟨text, htext, rfl⟩ := h.of_read ha
    obtain ⟨w, hw, hblanks⟩ := exists_blanks next
    have hpadded : Padded spells (text ++ w) a := ⟨[], text, w, blanks_nil, hw, htext, rfl⟩
    rcases hnext with ⟨hclose, rfl⟩ | ⟨tail, bs, hcomma, -, htail, rfl⟩
    · refine ⟨List.cons_ne_nil _ _, text ++ w, .single hpadded, ?_⟩
      rw [hblanks, hclose, List.append_assoc]
    · obtain ⟨hne, body, hbody, hrest⟩ := ih htail
      obtain ⟨w', hw', hblanks'⟩ := exists_blanks tail
      refine ⟨List.cons_ne_nil _ _, _, .cons hpadded (hbody.blanks_append hw') hne, ?_⟩
      rw [hblanks, hcomma, hblanks', hrest]
      simp only [List.append_assoc, List.cons_append]

theorem length_skipBlanks_le (cs : List Char) : (skipBlanks cs).length ≤ cs.length :=
  (List.dropWhile_sublist isBlank).length_le

/-- Behind the blanks in front of it a padded text begins. -/
theorem Reader.Reads.exists_core (h : item.Reads spells) {text : List Char} {a : α}
    (htext : Padded spells text a) : ∃ core after, spells core a ∧ Blanks after ∧
      0 < core.length ∧ ∀ cs, BeginsValue (skipBlanks (text ++ cs)) ∧
        skipBlanks (text ++ cs) = core ++ (after ++ cs) := by
  obtain ⟨before, core, after, hbefore, hafter, hcore, rfl⟩ := htext
  have hbegins := h.begins hcore
  refine ⟨core, after, hcore, hafter, List.length_pos_iff.2 hbegins.ne_nil, fun cs => ?_⟩
  have hfront : skipBlanks ((before ++ (core ++ after)) ++ cs) = core ++ (after ++ cs) := by
    rw [List.append_assoc, List.append_assoc, skipBlanks_append hbefore,
      (hbegins.append _).skipBlanks_eq]
  rw [hfront]
  exact ⟨hbegins.append _, rfl⟩

/-- Items in front of a closing bracket are read, when the bound is not below what is left. -/
theorem Reader.Reads.itemsFrom_append (h : item.Reads spells) {texts : List (List Char)}
    (htexts : List.Forall₂ (Padded spells) texts as) (hne : texts ≠ []) {bound : Nat}
    (hbound : (skipBlanks (commas texts ++ ']' :: rest)).length ≤ bound) :
    BeginsValue (skipBlanks (commas texts ++ ']' :: rest)) ∧
      itemsFrom item bound (skipBlanks (commas texts ++ ']' :: rest)) = .ok (as, rest) := by
  induction htexts generalizing bound with
  | nil => exact absurd rfl hne
  | @cons t a texts as ht htail ih =>
    obtain ⟨core, after, hcore, hafter, hpos, hfront⟩ := h.exists_core ht
    cases htail with
    | nil =>
      rw [commas_singleton] at hbound ⊢
      obtain ⟨hbegins, heq⟩ := hfront (']' :: rest)
      refine ⟨hbegins, ?_⟩
      rw [heq] at hbound ⊢
      rw [List.length_append] at hbound
      obtain ⟨bound, rfl⟩ := Nat.exists_eq_succ_of_ne_zero (by omega : bound ≠ 0)
      have hread := h.read_append hcore
        ((endsValue_cons (.inr (.inl rfl)) rest).blanks_append hafter)
      exact itemsFrom_last hread (skipBlanks_append hafter _) bound
    | @cons u b texts as hu htail =>
      rw [commas_cons_cons, List.append_assoc, List.cons_append] at hbound ⊢
      obtain ⟨hbegins, heq⟩ := hfront (',' :: (commas (u :: texts) ++ ']' :: rest))
      refine ⟨hbegins, ?_⟩
      rw [heq] at hbound ⊢
      rw [List.length_append, List.length_append, List.length_cons] at hbound
      obtain ⟨bound, rfl⟩ := Nat.exists_eq_succ_of_ne_zero (by omega : bound ≠ 0)
      have hshorter := length_skipBlanks_le (commas (u :: texts) ++ ']' :: rest)
      have hbound' : (skipBlanks (commas (u :: texts) ++ ']' :: rest)).length ≤ bound := by omega
      obtain ⟨hnext, hitems⟩ := ih (List.cons_ne_nil _ _) hbound'
      have hread := h.read_append hcore
        ((endsValue_cons (.inl rfl) (commas (u :: texts) ++ ']' :: rest)).blanks_append hafter)
      exact itemsFrom_next hread (skipBlanks_append hafter _) hnext hitems

theorem Reader.Reads.items_eq_ok_iff (h : item.Reads spells) :
    items item cs = .ok (as, rest) ↔
      ∃ body, SpellsItems spells body as ∧ cs = body ++ ']' :: rest := by
  constructor
  · intro hread
    obtain ⟨w, hw, hblanks⟩ := exists_blanks cs
    unfold items at hread
    split at hread
    · rename_i tail hclose
      obtain ⟨rfl, rfl⟩ := Prod.mk.inj (Except.ok.inj hread)
      exact ⟨w, .blank hw, by rw [hblanks, hclose]⟩
    · cases hread
    · obtain ⟨-, body, hbody, heq⟩ := h.of_itemsFrom hread
      exact ⟨w ++ body, hbody.blanks_append hw, by rw [hblanks, heq, List.append_assoc]⟩
  · rintro ⟨body, hbody, rfl⟩
    have hskip : items item (body ++ ']' :: rest) =
        items item (skipBlanks (body ++ ']' :: rest)) := by
      unfold items skipBlanks
      rw [List.dropWhile_idempotent]
    rw [hskip]
    cases hbody with
    | blank hw =>
      rw [skipBlanks_append hw]
      rfl
    | items hne htexts =>
      obtain ⟨hbegins, hitems⟩ := h.itemsFrom_append htexts hne (Nat.le_succ _)
      rw [items_of_beginsValue hbegins]
      exact hitems

end Arrays

/-! ## Objects -/

/-- After a member the object is closed, or a comma and another member follow. -/
theorem membersFrom_cases {member : σ → String → Reader σ} {bound : Nat} {s s' : σ}
    {cs rest : List Char} (h : membersFrom member bound s cs = .ok (s', rest)) :
    ∃ bound' body name next t after, bound = bound' + 1 ∧ SpellsChars body name.toList ∧
      cs = '"' :: (body ++ '"' :: next) ∧ member s name next = .ok (t, after) ∧
      ((skipBlanks after = '\x7d' :: rest ∧ s' = t) ∨
        ∃ tail, skipBlanks after = ',' :: tail ∧
          membersFrom member bound' t (skipBlanks tail) = .ok (s', rest)) := by
  unfold membersFrom at h
  split at h
  · rename_i bound' cs
    obtain ⟨⟨name, next⟩, hname, hnext⟩ := bind_eq_ok_iff.1 h
    obtain ⟨⟨t, after⟩, ht, hafter⟩ := bind_eq_ok_iff.1 hnext
    obtain ⟨body, hbody, rfl⟩ := string_eq_ok_iff.1 hname
    refine ⟨bound', body, name, next, t, after, rfl, hbody, rfl, ht, ?_⟩
    dsimp only at hafter
    split at hafter
    · rename_i hclose
      obtain ⟨rfl, rfl⟩ := Prod.mk.inj (Except.ok.inj hafter)
      exact .inl ⟨hclose, rfl⟩
    · rename_i tail hcomma
      exact .inr ⟨tail, hcomma, hafter⟩
    · cases hafter
  · cases h

section Objects

variable {read : Reader α} {spells : List Char → α → Prop} {cs rest body : List Char}
  {before ms : List (String × α)}

theorem Reader.Reads.of_afterColon (h : read.Reads spells) {a : α}
    (hread : afterColon read cs = .ok (a, rest)) :
    ∃ before after core, Blanks before ∧ Blanks after ∧ spells core a ∧
      cs = before ++ ':' :: (after ++ (core ++ rest)) := by
  unfold afterColon at hread
  split at hread
  · rename_i tail hcolon
    obtain ⟨core, hcore, hrest⟩ := h.of_read hread
    obtain ⟨before, hbefore, hblanks⟩ := exists_blanks cs
    obtain ⟨after, hafter, hblanks'⟩ := exists_blanks tail
    exact ⟨before, after, core, hbefore, hafter, hcore, by rw [hblanks, hcolon, hblanks', hrest]⟩
  · cases hread

theorem afterColon_append {w w' core : List Char} (hw : Blanks w) (hw' : Blanks w')
    (hcore : BeginsValue core) :
    afterColon read (w ++ ':' :: (w' ++ (core ++ rest))) = read (core ++ rest) := by
  have hcolon : skipBlanks (w ++ ':' :: (w' ++ (core ++ rest))) =
      ':' :: (w' ++ (core ++ rest)) := by
    rw [skipBlanks_append hw]
    rfl
  rw [afterColon, hcolon]
  show read (skipBlanks (w' ++ (core ++ rest))) = _
  rw [skipBlanks_append hw', (hcore.append rest).skipBlanks_eq]

theorem Reader.Reads.of_membersFrom (h : read.Reads spells) {bound : Nat}
    {after : List (String × α)}
    (hread : membersFrom (addMember read) bound before cs = .ok (after, rest)) :
    ∃ ms body, ms ≠ [] ∧ after = before ++ ms ∧ SpellsItems (SpellsMember spells) body ms ∧
      cs = body ++ '\x7d' :: rest := by
  induction bound generalizing cs before with
  | zero =>
    obtain ⟨bound, _, _, _, _, _, hbound, -⟩ := membersFrom_cases hread
    cases hbound
  | succ bound ih =>
    obtain ⟨_, quoted, name, next, t, later, hbound, hquoted, rfl, hmember, hlater⟩ :=
      membersFrom_cases hread
    obtain rfl := Nat.succ.inj hbound
    obtain ⟨⟨a, later'⟩, hcolon, heq⟩ := map_eq_ok_iff.1 hmember
    obtain ⟨rfl, rfl⟩ := Prod.mk.inj heq
    obtain ⟨w, w', core, hw, hw', hcore, rfl⟩ := h.of_afterColon hcolon
    obtain ⟨u, hu, hblanks⟩ := exists_blanks later'
    have hm : Padded (SpellsMember spells)
        ((('"' :: (quoted ++ ['"'])) ++ (w ++ ':' :: (w' ++ core))) ++ u) (name, a) :=
      ⟨[], _, u, blanks_nil, hu, ⟨_, w, w', core, ⟨quoted, hquoted, rfl⟩, hw, hw', hcore, rfl⟩, rfl⟩
    rcases hlater with ⟨hclose, rfl⟩ | ⟨tail, hcomma, htail⟩
    · refine ⟨[(name, a)], _, List.cons_ne_nil _ _, rfl, .single hm, ?_⟩
      rw [hblanks, hclose]
      simp
    · obtain ⟨ms, body, hne, rfl, hbody, hrest⟩ := ih htail
      obtain ⟨u', hu', hblanks'⟩ := exists_blanks tail
      refine ⟨(name, a) :: ms, _, List.cons_ne_nil _ _, by simp,
        .cons hm (hbody.blanks_append hu') hne, ?_⟩
      rw [hblanks, hcomma, hblanks', hrest]
      simp

end Objects

/-! ## Members one after another -/

section Steps

variable {member : σ → String → Reader σ} {spells : List Char → α → Prop}
  {step : σ → String × α → Option σ}

/-- What follows the name of a member makes the reader of members take a step, or fail where there
is none. -/
def TakesSteps (member : σ → String → Reader σ) (spells : List Char → α → Prop)
    (step : σ → String × α → Option σ) : Prop :=
  ∀ s m w w' core rest, Blanks w → Blanks w' → spells core m.2 → EndsValue rest →
    (member s m.1 (w ++ ':' :: (w' ++ (core ++ rest)))).toOption = (step s m).map (·, rest)

/-- Behind the blanks in front of it a member begins with its name. -/
theorem Padded.exists_member {t : List Char} {m : String × α}
    (h : Padded (SpellsMember spells) t m) :
    ∃ quoted w w' core u, SpellsChars quoted m.1.toList ∧ Blanks w ∧ Blanks w' ∧
      spells core m.2 ∧ Blanks u ∧ ∀ cs, skipBlanks (t ++ cs) =
        '"' :: (quoted ++ '"' :: (w ++ ':' :: (w' ++ (core ++ (u ++ cs))))) := by
  obtain ⟨before, -, u, hbefore, hu, ⟨-, w, w', core, ⟨quoted, hquoted, rfl⟩, hw, hw', hcore, rfl⟩,
    rfl⟩ := h
  refine ⟨quoted, w, w', core, u, hquoted, hw, hw', hcore, hu, fun cs => ?_⟩
  rw [List.append_assoc, skipBlanks_append hbefore]
  simp only [List.cons_append, List.append_assoc, List.nil_append]
  exact skipBlanks_cons (by decide) _

theorem Padded.length_lt_of_member {t : List Char} {m : String × α}
    (h : Padded (SpellsMember spells) t m) (cs : List Char) :
    cs.length < (skipBlanks (t ++ cs)).length := by
  obtain ⟨quoted, w, w', core, u, -, -, -, -, -, hfront⟩ := h.exists_member
  rw [hfront]
  simp only [List.length_append, List.length_cons]
  omega

/-- The members that follow a member, which has led to a state. -/
def afterMember (member : σ → String → Reader σ) (bound : Nat) (s : σ) : Reader σ := fun cs =>
  match skipBlanks cs with
  | '\x7d' :: cs => .ok (s, cs)
  | ',' :: cs => membersFrom member bound s (skipBlanks cs)
  | cs => .error (unexpected cs)

/-- The step of a member is taken before what follows it is looked at. -/
theorem TakesSteps.toOption_membersFrom_cons (h : TakesSteps member spells step) {t cs : List Char}
    {m : String × α} (hm : Padded (SpellsMember spells) t m) (hends : EndsValue cs)
    (bound : Nat) (s : σ) :
    (membersFrom member (bound + 1) s (skipBlanks (t ++ cs))).toOption =
      (step s m).bind fun s' => (afterMember member bound s' cs).toOption := by
  obtain ⟨quoted, w, w', core, u, hquoted, hw, hw', hcore, hu, hfront⟩ := hm.exists_member
  have hname (rest : List Char) : string (quoted ++ '"' :: rest) = .ok (m.1, rest) :=
    string_eq_ok_iff.2 ⟨quoted, hquoted, rfl⟩
  have hmember := h s m w w' core (u ++ cs) hw hw' hcore (hends.blanks_append hu)
  rw [hfront, membersFrom, hname]
  show (member s m.1 (w ++ ':' :: (w' ++ (core ++ (u ++ cs)))) >>= fun p =>
    afterMember member bound p.1 p.2).toOption = _
  cases hs : step s m with
  | none =>
    rw [hs] at hmember
    cases hread : member s m.1 (w ++ ':' :: (w' ++ (core ++ (u ++ cs)))) with
    | ok p =>
      rw [hread] at hmember
      cases hmember
    | error fault => rfl
  | some s' =>
    rw [hs] at hmember
    rw [toOption_eq_some_iff.1 hmember]
    show (afterMember member bound s' (u ++ cs)).toOption =
      (afterMember member bound s' cs).toOption
    rw [afterMember, skipBlanks_append hu, afterMember]

/-- Where members stand in front of a closing brace, their steps are taken. -/
theorem TakesSteps.toOption_membersFrom (h : TakesSteps member spells step) {rest : List Char}
    {texts : List (List Char)} {ms : List (String × α)}
    (htexts : List.Forall₂ (Padded (SpellsMember spells)) texts ms) (hne : texts ≠ [])
    {bound : Nat} (hbound : (skipBlanks (commas texts ++ '\x7d' :: rest)).length ≤ bound) (s : σ) :
    (membersFrom member bound s (skipBlanks (commas texts ++ '\x7d' :: rest))).toOption =
      (ms.foldlM step s).map (·, rest) := by
  induction htexts generalizing bound s with
  | nil => exact absurd rfl hne
  | @cons t m texts ms hm htail ih =>
    cases htail with
    | nil =>
      rw [commas_singleton] at hbound ⊢
      have hlength := hm.length_lt_of_member ('\x7d' :: rest)
      obtain ⟨bound, rfl⟩ := Nat.exists_eq_succ_of_ne_zero (by omega : bound ≠ 0)
      rw [h.toOption_membersFrom_cons hm (endsValue_cons (.inr (.inr rfl)) rest), List.foldlM_cons]
      cases step s m <;> rfl
    | @cons u n texts ms hn htail =>
      rw [commas_cons_cons, List.append_assoc, List.cons_append] at hbound ⊢
      have hlength := hm.length_lt_of_member (',' :: (commas (u :: texts) ++ '\x7d' :: rest))
      have hshorter := length_skipBlanks_le (commas (u :: texts) ++ '\x7d' :: rest)
      rw [List.length_cons] at hlength
      obtain ⟨bound, rfl⟩ := Nat.exists_eq_succ_of_ne_zero (by omega : bound ≠ 0)
      rw [h.toOption_membersFrom_cons hm (endsValue_cons (.inl rfl) _), List.foldlM_cons]
      cases hs : step s m with
      | none => rfl
      | some s' => exact ih (List.cons_ne_nil u texts) (by omega) s'

/-- The first of several members begins with its name. -/
theorem exists_skipBlanks_commas {texts : List (List Char)} {ms : List (String × α)}
    (h : List.Forall₂ (Padded (SpellsMember spells)) texts ms) (hne : texts ≠ [])
    (cs : List Char) : ∃ tail, skipBlanks (commas texts ++ cs) = '"' :: tail := by
  cases h with
  | nil => exact absurd rfl hne
  | cons hm htail =>
    obtain ⟨quoted, w, w', core, u, -, -, -, -, -, hfront⟩ := hm.exists_member
    cases htail with
    | nil =>
      rw [commas_singleton]
      exact ⟨_, hfront cs⟩
    | cons hn htail =>
      rw [commas_cons_cons, List.append_assoc]
      exact ⟨_, hfront _⟩

/-- What stands in an object is read up to the brace that closes it, step by step. -/
theorem TakesSteps.toOption_members (h : TakesSteps member spells step) {body : List Char}
    {ms : List (String × α)} (hbody : SpellsItems (SpellsMember spells) body ms) (s : σ)
    (rest : List Char) :
    (members member s (body ++ '\x7d' :: rest)).toOption = (ms.foldlM step s).map (·, rest) := by
  cases hbody with
  | blank hw =>
    rw [members, skipBlanks_append hw]
    rfl
  | @items texts _ hne htexts =>
    have hread := h.toOption_membersFrom htexts hne
      (Nat.le_succ (skipBlanks (commas texts ++ '\x7d' :: rest)).length) s
    obtain ⟨tail, hquote⟩ := exists_skipBlanks_commas htexts hne ('\x7d' :: rest)
    rw [hquote] at hread
    rw [members, hquote]
    exact hread

end Steps

/-- Members are added one after another. -/
theorem Reader.Reads.takesSteps_addMember {read : Reader α} {spells : List Char → α → Prop}
    (h : read.Reads spells) :
    TakesSteps (addMember read) spells fun before m => some (before ++ [m]) := by
  intro before m w w' core rest hw hw' hcore hends
  rw [addMember, afterColon_append hw hw' (h.begins hcore), h.read_append hcore hends]
  rfl

theorem foldlM_append_singleton (before ms : List (String × α)) :
    ms.foldlM (fun before m => some (before ++ [m])) before = some (before ++ ms) := by
  induction ms generalizing before with
  | nil => rw [List.foldlM_nil, List.append_nil]; rfl
  | cons m ms ih =>
    rw [List.foldlM_cons, List.append_cons before m ms]
    exact ih (before ++ [m])

theorem Reader.Reads.members_eq_ok_iff {read : Reader α} {spells : List Char → α → Prop}
    (h : read.Reads spells) {cs rest : List Char} {ms : List (String × α)} :
    members (addMember read) [] cs = .ok (ms, rest) ↔
      ∃ body, SpellsItems (SpellsMember spells) body ms ∧ cs = body ++ '\x7d' :: rest := by
  constructor
  · intro hread
    obtain ⟨w, hw, hblanks⟩ := exists_blanks cs
    unfold members at hread
    split at hread
    · rename_i tail hclose
      obtain ⟨rfl, rfl⟩ := Prod.mk.inj (Except.ok.inj hread)
      exact ⟨w, .blank hw, by rw [hblanks, hclose]⟩
    · obtain ⟨ns, body, -, hns, hbody, heq⟩ := h.of_membersFrom hread
      obtain rfl : ms = ns := hns
      exact ⟨w ++ body, hbody.blanks_append hw, by rw [hblanks, heq, List.append_assoc]⟩
  · rintro ⟨body, hbody, rfl⟩
    have hread := h.takesSteps_addMember.toOption_members hbody [] rest
    rw [foldlM_append_singleton] at hread
    exact toOption_eq_some_iff.1 hread

/-! ## Whole texts -/

theorem document_of_read {read : Reader α} {text : String} {a : α} {after : List Char}
    (hafter : Blanks after) (hread : read (skipBlanks text.toList) = .ok (a, after)) :
    document read text = .ok a := by
  have hend : skipBlanks after = [] := by
    have hblanks := skipBlanks_append hafter []
    rwa [List.append_nil] at hblanks
  unfold document
  rw [hread]
  simp only [bind, Except.bind, hend]

/-- A whole text is read when it is one of the grammar, with blanks around it. -/
theorem Reader.Reads.document_eq_ok_iff {read : Reader α} {spells : List Char → α → Prop}
    (h : read.Reads spells) {text : String} {a : α} :
    document read text = .ok a ↔ Padded spells text.toList a := by
  constructor
  · intro hread
    unfold document at hread
    obtain ⟨⟨a', rest⟩, ha, hend⟩ := bind_eq_ok_iff.1 hread
    obtain ⟨core, hcore, hrest⟩ := h.of_read ha
    obtain ⟨before, hbefore, hblanks⟩ := exists_blanks text.toList
    obtain ⟨after, hafter, hblanks'⟩ := exists_blanks rest
    dsimp only at hend
    split at hend
    · rename_i hnil
      cases hend
      rw [hnil, List.append_nil] at hblanks'
      exact ⟨before, core, rest, hbefore, hblanks' ▸ hafter, hcore, by rw [hblanks, hrest]⟩
    · cases hend
  · intro hpadded
    obtain ⟨core, after, hcore, hafter, -, hfront⟩ := h.exists_core hpadded
    have hskip := (hfront []).2
    rw [List.append_nil, List.append_nil] at hskip
    have hends : EndsValue after := by
      have hblanks := endsValue_nil.blanks_append hafter
      rwa [List.append_nil] at hblanks
    exact document_of_read hafter (by rw [hskip, h.read_append hcore hends])

end SeedScript.Json
