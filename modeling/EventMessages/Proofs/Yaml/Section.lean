import EventMessages.Proofs.Yaml.TokenStream

/-!
# EventMessages.Proofs.Yaml.Section

Sections: a word, and below it one line for each entry, with a word and a text in single quotes.

```
section:
  first: 'one'
  second: 'it''s two'
```

The tokens of such a text are those of a mapping of one entry whose value is a mapping
(`Section.tokenStream_text`), whatever the quoted texts hold.
-/

namespace EventMessages.Yaml

open Lexer

/-- An entry of a section. -/
structure Entry where
  word : List Char
  value : List Char
  deriving DecidableEq, Repr

/-- A section. -/
structure Section where
  word : List Char
  entries : List Entry
  deriving DecidableEq, Repr

/-- The words can be keys, and a value stays on its line. -/
structure Entry.IsPlain (e : Entry) : Prop where
  word : IsWord e.word
  value : ∀ c ∈ e.value, isBreak c = false

structure Section.IsPlain (s : Section) : Prop where
  word : IsWord s.word
  entries : ∀ e ∈ s.entries, e.IsPlain
  nonempty : s.entries ≠ []

/-! ## Texts -/

/-- The line of an entry, with the break in front of it. -/
def Entry.text (e : Entry) : List Char :=
  '\n' :: ' ' :: ' ' :: (e.word ++ ':' :: ' ' :: Quoted.writeSingle e.value)

def Section.text (s : Section) : List Char := s.word ++ ':' :: s.entries.flatMap Entry.text

/-! ## Tokens -/

def Entry.tokens (e : Entry) : List Token :=
  [.key, .scalar e.word true, .value, .scalar e.value false]

def Section.tokens (s : Section) : List Token :=
  .blockMappingStart :: .key :: .scalar s.word true :: .value :: .blockMappingStart ::
    (s.entries.flatMap Entry.tokens ++ [.blockEnd, .blockEnd, .streamEnd])

variable {e : Entry} {s : Section} {entries : List Entry} {cursor : Cursor}
variable {ending rest : List Char} {margin : Nat}

/-- An entry is read as a key in the third column, and its value. -/
theorem Entry.leads (he : e.IsPlain) (hcursor : cursor.rest = e.text ++ rest)
    (hrest : rest.head? ≠ some '\'') (hmargin : margin ≤ 3) (tokens : List Token)
    (margins : List Nat) :
    ∃ before after, after.rest = rest ∧
      Leads 3 ⟨cursor, tokens, margin, margins, none, [], false, false⟩
        { ((Lexer.mk before tokens margin margins none [] false false).pushKey 2 e.word).push
          (.scalar e.value false) with cursor := after } := by
  obtain ⟨text, index, line, column⟩ := cursor
  obtain rfl : text = '\n' :: ([' ', ' '] ++ (e.word ++ ':' :: ' ' ::
      (Quoted.writeSingle e.value ++ rest))) := by simpa [Entry.text] using hcursor
  obtain ⟨c, others, hcons⟩ := List.exists_cons_of_ne_nil he.word.nonempty
  have hc : isVisible c = true := isVisible_of_isWordChar (he.word.chars c (by simp [hcons]))
  have hgap : skipGap ⟨⟨'\n' :: ([' ', ' '] ++ (e.word ++ ':' :: ' ' ::
        (Quoted.writeSingle e.value ++ rest))), index, line, column⟩, tokens, margin, margins, none,
        [], false, false⟩ =
      ⟨⟨e.word ++ ':' :: ' ' :: (Quoted.writeSingle e.value ++ rest), index + 1 + 2, line + 1, 2⟩,
        tokens, margin, margins, none, [], true, false⟩ := by
    have hsolid : ∀ c ∈ [' ', ' '], isSolid c = true := List.all_eq_true.mp (by decide)
    have hmoved := Cursor.moveTo_lf hsolid
      (e.word ++ ':' :: ' ' :: (Quoted.writeSingle e.value ++ rest)) index line column
    rw [hcons] at hmoved ⊢
    rw [skipGap_lf rfl rfl (by simp) hc]
    exact congrArg (Lexer.mk · tokens margin margins none [] true false) hmoved
  obtain ⟨atValue, hat⟩ : ∃ s : Lexer, s = ⟨⟨' ' :: (Quoted.writeSingle e.value ++ rest),
      index + 1 + 2 + e.word.length + 1, line + 1, 2 + e.word.length + 1⟩, tokens, margin, margins,
      none, [], false, false⟩ := ⟨_, rfl⟩
  have hkey := leads_key he.word rfl hgap hmargin
  rw [← hat] at hkey
  have hmargin' : (atValue.pushKey 2 e.word).margin ≤ 2 + e.word.length + 1 + 1 := by
    have hle := margin_pushKey_le atValue 2 e.word
    rw [hat] at hle ⊢
    simp only at hle
    omega
  obtain ⟨after, hafter, hvalue⟩ := leads_quoted
    (by rw [keyAllowed_pushKey, hat]) (by rw [key?_pushKey, hat]) (by rw [outerKeys_pushKey, hat])
    (by rw [finished_pushKey, hat]) (by rw [cursor_pushKey, hat]) hmargin' he.value hrest
  rw [hat] at hvalue hkey
  exact ⟨_, after, hafter, hkey.trans hvalue⟩

/-- The first entry opens the mapping. -/
theorem Entry.leads_first (he : e.IsPlain) (hcursor : cursor.rest = e.text ++ rest)
    (hrest : rest.head? ≠ some '\'') (hmargin : margin ≤ 2) (tokens : List Token)
    (margins : List Nat) :
    ∃ after, after.rest = rest ∧
      Leads 3 ⟨cursor, tokens, margin, margins, none, [], false, false⟩
        ⟨after, e.tokens.reverse ++ .blockMappingStart :: tokens, 3, margin :: margins, none, [],
          false, false⟩ := by
  obtain ⟨before, after, hafter, hleads⟩ :=
    Entry.leads he hcursor hrest (Nat.le_succ_of_le hmargin) tokens margins
  rw [pushKey_of_le hmargin] at hleads
  exact ⟨after, hafter, hleads⟩

/-- A further entry belongs to the mapping that is open. -/
theorem Entry.leads_next (he : e.IsPlain) (hcursor : cursor.rest = e.text ++ rest)
    (hrest : rest.head? ≠ some '\'') (tokens : List Token) (margins : List Nat) :
    ∃ after, after.rest = rest ∧
      Leads 3 ⟨cursor, tokens, 3, margins, none, [], false, false⟩
        ⟨after, e.tokens.reverse ++ tokens, 3, margins, none, [], false, false⟩ := by
  obtain ⟨before, after, hafter, hleads⟩ :=
    Entry.leads he hcursor hrest (Nat.le_refl 3) tokens margins
  rw [pushKey_of_lt (Nat.lt_succ_self 2)] at hleads
  exact ⟨after, hafter, hleads⟩

/-! ## Sections -/

/-- No quote follows an entry, so its value ends where it ends. -/
theorem head?_entries (entries : List Entry) (hending : ending = [] ∨ ending = ['\n']) :
    (entries.flatMap Entry.text ++ ending).head? ≠ some '\'' := by
  cases entries with
  | nil => rcases hending with rfl | rfl <;> simp
  | cons e entries => simp [Entry.text]

theorem Entry.leads_all (hentries : ∀ e ∈ entries, e.IsPlain)
    (hending : ending = [] ∨ ending = ['\n'])
    (hcursor : cursor.rest = entries.flatMap Entry.text ++ ending) (tokens : List Token)
    (margins : List Nat) :
    ∃ after, after.rest = ending ∧
      Leads (3 * entries.length) ⟨cursor, tokens, 3, margins, none, [], false, false⟩
        ⟨after, (entries.flatMap Entry.tokens).reverse ++ tokens, 3, margins, none, [], false,
          false⟩ := by
  induction entries generalizing cursor tokens with
  | nil => exact ⟨cursor, hcursor, .refl _⟩
  | cons e entries ih =>
      obtain ⟨he, hentries⟩ := List.forall_mem_cons.mp hentries
      rw [List.flatMap_cons, List.append_assoc] at hcursor
      obtain ⟨mid, hmid, hfirst⟩ :=
        Entry.leads_next he hcursor (head?_entries entries hending) tokens margins
      obtain ⟨after, hafter, hothers⟩ := ih hentries hmid (e.tokens.reverse ++ tokens)
      have hleads := hfirst.trans hothers
      rw [Nat.add_comm, ← List.append_assoc, ← List.reverse_append, ← List.flatMap_cons] at hleads
      exact ⟨after, hafter, hleads⟩

/-- At the end of a section both mappings are closed. -/
theorem read_end (hcursor : cursor.rest = ending) (hending : ending = [] ∨ ending = ['\n'])
    (tokens : List Token) :
    ∃ last : Lexer, (Lexer.mk cursor tokens 3 [1, 0] none [] false false).read = .ok last ∧
      last.finished = true ∧ last.tokens = .streamEnd :: .blockEnd :: .blockEnd :: tokens := by
  obtain ⟨left, keyAllowed, hleft, hgap⟩ := skipGap_end
    (s := ⟨cursor, tokens, 3, [1, 0], none, [], false, false⟩) hcursor hending
  have hread := read_eq_readEnd hgap (dropStale_of_none rfl rfl) hleft
  exact ⟨_, hread, rfl, rfl⟩

theorem length_le_length_text (entries : List Entry) :
    3 * entries.length ≤ (entries.flatMap Entry.text).length := by
  induction entries with
  | nil => exact Nat.le_refl _
  | cons e entries ih =>
      simp only [List.flatMap_cons, List.length_append, List.length_cons, Entry.text]
      omega

/-- The word of a section is a key in the first column. -/
theorem Section.leads_word {word : List Char} (hword : IsWord word)
    (hrest : atWordEnd rest = true) :
    ∃ after, after.rest = rest ∧ Leads 2 { cursor := ⟨word ++ ':' :: rest, 0, 0, 0⟩ }
      ⟨after, [.value, .scalar word true, .key, .blockMappingStart], 1, [0], none, [], false,
        false⟩ := by
  obtain ⟨c, others, hcons⟩ := List.exists_cons_of_ne_nil hword.nonempty
  have hc : isVisible c = true := isVisible_of_isWordChar (hword.chars c (by simp [hcons]))
  have hgap : skipGap { cursor := ⟨word ++ ':' :: rest, 0, 0, 0⟩ } =
      ⟨⟨word ++ ':' :: rest, 0, 0, 0⟩, [], 0, [], none, [], true, false⟩ :=
    skipGap_of_visible (by rw [hcons]; rfl) hc
  have hkey := leads_key hword hrest hgap (Nat.zero_le _)
  rw [pushKey_of_le (Nat.le_refl 0)] at hkey
  exact ⟨_, rfl, hkey⟩

/-- **The tokens of a section**, whether a line break ends its text or not. -/
theorem Section.tokenStream_text (hs : s.IsPlain) (hending : ending = [] ∨ ending = ['\n']) :
    TokenStream.ofText (s.text ++ ending) = ⟨s.tokens, none⟩ := by
  obtain ⟨word, entries⟩ := s
  obtain ⟨hword, hentries, hnonempty⟩ := hs
  obtain ⟨e, entries, rfl⟩ := List.exists_cons_of_ne_nil hnonempty
  obtain ⟨he, hentries⟩ := List.forall_mem_cons.mp hentries
  have htext : Section.text ⟨word, e :: entries⟩ ++ ending =
      word ++ ':' :: (e.text ++ (entries.flatMap Entry.text ++ ending)) := by
    simp [Section.text]
  obtain ⟨cursor, hcursor, hsection⟩ := leads_word hword
    (rfl : atWordEnd (e.text ++ (entries.flatMap Entry.text ++ ending)) = true)
  obtain ⟨mid, hmid, hfirst⟩ := Entry.leads_first he hcursor (head?_entries entries hending)
    (Nat.le_succ 1) [.value, .scalar word true, .key, .blockMappingStart] [0]
  obtain ⟨after, hafter, hothers⟩ := Entry.leads_all hentries hending hmid _ [1, 0]
  obtain ⟨last, hread, hfinished, htokens⟩ := read_end hafter hending _
  have hlength := length_le_length_text entries
  -- every token takes a character at least
  obtain ⟨n, hn⟩ : ∃ n, (Section.text ⟨word, e :: entries⟩ ++ ending).length + 1 =
      2 + (3 + 3 * entries.length) + (n + 1) := by
    refine ⟨(Section.text ⟨word, e :: entries⟩ ++ ending).length + 1 -
      (2 + (3 + 3 * entries.length) + 1), ?_⟩
    simp only [htext, List.length_append, List.length_cons, Entry.text]
    omega
  rw [TokenStream.ofText, hn, htext, (hsection.trans (hfirst.trans hothers)).run, run, hread]
  simp [hfinished, htokens, Section.tokens, Entry.tokens]

end EventMessages.Yaml
