import EventMessages.Proofs.Yaml.Quoted
import EventMessages.Yaml.Tag
import EventMessages.Yaml.TokenStream

/-!
# EventMessages.Proofs.Yaml.TokenStream

One token at a time. A token is read where the white space before it ends, if that is not left of
the block that is open (`Lexer.read_eq_readToken`). What is read then is told for the tokens of a
simple block mapping: words without quotes, the colons after them, and scalars in single quotes.
-/

namespace EventMessages.Yaml

variable {c : Char} {text rest : List Char}

/-! ## Words -/

/-- A small letter or an underscore. -/
def isWordChar (c : Char) : Bool := ('a' ≤ c && c ≤ 'z') || c == '_'

/-- A word that can be a key as it is: it is not empty and not too long, and it has no meaning but
itself. -/
structure IsWord (word : List Char) : Prop where
  nonempty : word ≠ []
  chars : ∀ c ∈ word, isWordChar c = true
  short : word.length ≤ Lexer.keyLimit
  text : Tag.ofLook word = .text

theorem ne_of_isWordChar (hc : isWordChar c = true) {marks : List Char}
    (hmarks : marks.any isWordChar = false) : ∀ d ∈ marks, c ≠ d := by
  rintro d hd rfl
  exact List.any_eq_false.mp hmarks c hd hc

/-- A character that is passed over without a thought: it neither ends a line nor is a byte order
mark. -/
def isSolid (c : Char) : Bool := !isBreak c && c != '\uFEFF'

/-- Where a token may start. -/
def isVisible (c : Char) : Bool := isSolid c && c != ' ' && c != '#'

theorem isBreak_eq_false_of_isSolid (h : isSolid c = true) : isBreak c = false := by
  simp only [isSolid, Bool.and_eq_true, Bool.not_eq_true'] at h
  exact h.1

theorem isSolid_of_isVisible (h : isVisible c = true) : isSolid c = true := by
  simp only [isVisible, Bool.and_eq_true] at h
  exact h.1.1

theorem isVisible_of_isWordChar (hc : isWordChar c = true) : isVisible c = true := by
  have hne := ne_of_isWordChar hc (by decide :
    ['\n', '\r', '\x85', '\u2028', '\u2029', '\uFEFF', ' ', '#'].any isWordChar = false)
  simp only [List.forall_mem_cons] at hne
  simp [isVisible, isSolid, isBreak, hne]

/-! ## Places -/

namespace Cursor

theorem next_of_isSolid (hc : isSolid c = true) (rest : List Char) (index line column : Nat) :
    (⟨c :: rest, index, line, column⟩ : Cursor).next = ⟨rest, index + 1, line, column + 1⟩ := by
  simp only [isSolid, isBreak, Bool.and_eq_true, Bool.not_eq_true', Bool.or_eq_false_iff,
    bne_iff_ne, ne_eq] at hc
  simp [next, isBreak, hc]

theorem skip_append (h : ∀ c ∈ text, isSolid c = true) (rest : List Char)
    (index line column : Nat) :
    (⟨text ++ rest, index, line, column⟩ : Cursor).skip text.length =
      ⟨rest, index + text.length, line, column + text.length⟩ := by
  induction text generalizing index column with
  | nil => rfl
  | cons c text ih =>
      obtain ⟨hc, htext⟩ := List.forall_mem_cons.mp h
      rw [List.cons_append, List.length_cons, skip, next_of_isSolid hc, ih htext]
      simp only [Cursor.mk.injEq, true_and]
      omega

/-- Solid characters keep the place on its line. -/
theorem moveTo_append (h : ∀ c ∈ text, isSolid c = true) (rest : List Char)
    (index line column : Nat) :
    (⟨text ++ rest, index, line, column⟩ : Cursor).moveTo rest =
      ⟨rest, index + text.length, line, column + text.length⟩ := by
  rw [moveTo, List.length_append, Nat.add_sub_cancel, skip_append h]

/-- A line feed starts a line. -/
theorem moveTo_lf (h : ∀ c ∈ text, isSolid c = true) (rest : List Char)
    (index line column : Nat) :
    (⟨'\n' :: (text ++ rest), index, line, column⟩ : Cursor).moveTo rest =
      ⟨rest, index + 1 + text.length, line + 1, text.length⟩ := by
  have hlength : ('\n' :: (text ++ rest)).length - rest.length = text.length + 1 := by
    simp only [List.length_cons, List.length_append]
    omega
  have hnext : (⟨'\n' :: (text ++ rest), index, line, column⟩ : Cursor).next =
      ⟨text ++ rest, index + 1, line + 1, 0⟩ := rfl
  simp only [moveTo, hlength]
  rw [skip, hnext, skip_append h, Nat.zero_add]

end Cursor

/-! ## Between tokens -/

theorem takeBreak?_of_not_isBreak (h : isBreak c = false) (rest : List Char) :
    takeBreak? (c :: rest) = none := by
  unfold takeBreak?
  split <;> simp_all [isBreak]

theorem dropBlanks_append {blanks : List Char} (h : ∀ c ∈ blanks, c = ' ') (hc : c ≠ ' ')
    (rest : List Char) : dropBlanks (blanks ++ c :: rest) = c :: rest := by
  induction blanks with
  | nil => simp [dropBlanks, hc]
  | cons b blanks ih =>
      obtain ⟨rfl, hblanks⟩ := List.forall_mem_cons.mp h
      exact ih hblanks

namespace Lexer

theorem skipGapUpTo_blanks {blanks : List Char} (h : ∀ c ∈ blanks, c = ' ')
    (hc : isVisible c = true) (n : Nat) (rest : List Char) :
    skipGapUpTo (n + 1) (blanks ++ c :: rest) = (c :: rest, false) := by
  simp only [isVisible, Bool.and_eq_true, bne_iff_ne, ne_eq] at hc
  obtain ⟨⟨hsolid, hblank⟩, hmark⟩ := hc
  have hstart : startsWith '#' (c :: rest) = false := by simp [startsWith, hmark]
  simp only [skipGapUpTo, dropBlanks_append h hblank, hstart, Bool.false_eq_true, if_false,
    takeBreak?_of_not_isBreak (isBreak_eq_false_of_isSolid hsolid)]

theorem skipGapUpTo_lf (n : Nat) (text : List Char) :
    skipGapUpTo (n + 1) ('\n' :: text) = ((skipGapUpTo n text).1, true) := by
  rw [skipGapUpTo]
  rfl

variable {s moved : Lexer}

theorem skipGap_eq {left : List Char} {newLine : Bool} (hrest : s.cursor.rest = text)
    (hbom : startsWith '\uFEFF' text = false)
    (hgap : skipGapUpTo (text.length + 1) text = (left, newLine)) :
    s.skipGap =
      if newLine && !s.inFlow then { s.moveTo left with keyAllowed := true }
      else s.moveTo left := by
  simp only [skipGap, hrest, hbom, Bool.false_eq_true, and_false, if_false, hgap]

/-- Where a token starts, there is no gap. -/
theorem skipGap_of_visible (hrest : s.cursor.rest = c :: rest) (hc : isVisible c = true) :
    s.skipGap = s := by
  have hbom : startsWith '\uFEFF' (c :: rest) = false := by
    simp only [isVisible, isSolid, Bool.and_eq_true, bne_iff_ne, ne_eq] at hc
    simp [startsWith, hc]
  have hgap : skipGapUpTo ((c :: rest).length + 1) (c :: rest) = (c :: rest, false) :=
    skipGapUpTo_blanks (List.forall_mem_nil (· = ' ')) hc _ rest
  have hstay : s.moveTo (c :: rest) = s := by
    simp [Lexer.moveTo, Cursor.moveTo, hrest, Cursor.skip]
  rw [skipGap_eq hrest hbom hgap, hstay]
  rfl

/-- A blank in front of a token is passed over. -/
theorem skipGap_blank (hrest : s.cursor.rest = ' ' :: c :: rest) (hc : isVisible c = true) :
    s.skipGap = s.moveTo (c :: rest) := by
  have hblank : ∀ b ∈ [' '], b = ' ' := by simp
  have hgap := skipGapUpTo_blanks hblank hc (' ' :: c :: rest).length rest
  rw [skipGap_eq hrest rfl hgap]
  rfl

/-- In block context a key may start on a new line. -/
theorem skipGap_lf {blanks : List Char} (hflow : s.inFlow = false)
    (hrest : s.cursor.rest = '\n' :: (blanks ++ c :: rest)) (hblanks : ∀ b ∈ blanks, b = ' ')
    (hc : isVisible c = true) :
    s.skipGap = { s.moveTo (c :: rest) with keyAllowed := true } := by
  have hgap := skipGapUpTo_lf ('\n' :: (blanks ++ c :: rest)).length (blanks ++ c :: rest)
  rw [List.length_cons, skipGapUpTo_blanks hblanks hc] at hgap
  rw [skipGap_eq hrest rfl hgap, hflow]
  rfl

/-- The gap at the end of a text. -/
theorem skipGap_end (hrest : s.cursor.rest = text) (htext : text = [] ∨ text = ['\n']) :
    ∃ cursor keyAllowed, cursor.rest = [] ∧ s.skipGap = { s with cursor, keyAllowed } := by
  have hmoved : (s.cursor.moveTo []).rest = [] := Cursor.rest_moveTo (List.append_nil _).symm
  obtain ⟨newLine, hgap⟩ : ∃ newLine, skipGapUpTo (text.length + 1) text = ([], newLine) := by
    rcases htext with rfl | rfl
    · exact ⟨_, rfl⟩
    · exact ⟨_, rfl⟩
  have hbom : startsWith '\uFEFF' text = false := by
    rcases htext with rfl | rfl <;> rfl
  rw [skipGap_eq hrest hbom hgap]
  split
  · exact ⟨_, true, hmoved, rfl⟩
  · exact ⟨_, s.keyAllowed, hmoved, rfl⟩

/-! ## Keys that are waited for, and margins -/

theorem dropStale_of_none (hkey : s.key? = none) (houter : s.outerKeys = []) :
    s.dropStale = .ok s := by
  obtain ⟨cursor, tokens, margin, margins, key?, outerKeys, keyAllowed, finished⟩ := s
  subst hkey houter
  rfl

theorem dropStale_of_fresh {k : KeyPlace} (hkey : s.key? = some k) (houter : s.outerKeys = [])
    (hfresh : isStale s.cursor k = false) : s.dropStale = .ok s := by
  obtain ⟨cursor, tokens, margin, margins, key?, outerKeys, keyAllowed, finished⟩ := s
  subst hkey houter
  simp only [dropStale, dropStaleKey, hfresh, Bool.false_eq_true, if_false]
  rfl

theorem closeBlocks_of_le {margin : Nat} (h : s.margin ≤ margin) : s.closeBlocks margin = s := by
  unfold closeBlocks
  split
  · rfl
  · cases s.margins with
    | nil => rfl
    | cons outer margins => rw [closeBlocks.go, if_neg (Nat.not_lt.mpr h)]

/-- **A token** is read where the gap before it ends. -/
theorem read_eq_readToken (hgap : s.skipGap = moved) (hstale : moved.dropStale = .ok moved)
    (hmargin : moved.margin ≤ moved.cursor.column + 1) (hrest : moved.cursor.rest = c :: rest) :
    s.read = moved.readToken c rest := by
  rw [read, hgap, hstale]
  simp only [bind, Except.bind, closeBlocks_of_le hmargin, hrest]

/-! ## Tokens by their first character -/

theorem startsPlain_of_isWordChar (hc : isWordChar c = true) (flow : Bool) (rest : List Char) :
    startsPlain flow c rest = true := by
  have hindicators := ne_of_isWordChar hc (by decide : indicators.any isWordChar = false)
  have hindicator : c ∉ indicators := fun hmem => hindicators c hmem rfl
  have hspace : isSpace c = false := by
    have hne := ne_of_isWordChar hc (by decide : [' ', '\t'].any isWordChar = false)
    simp only [List.forall_mem_cons] at hne
    simp [isSpace, hne]
  have hbreak : isBreak c = false :=
    isBreak_eq_false_of_isSolid (isSolid_of_isVisible (isVisible_of_isWordChar hc))
  simp [startsPlain, hspace, hbreak, hindicator]

theorem readToken_of_isWordChar (hc : isWordChar c = true) (s : Lexer) (rest : List Char) :
    s.readToken c rest = s.readPlain := by
  have hne := ne_of_isWordChar hc (by decide : ['%', '-', '.', '[', '\x7b', ']', '\x7d', ',', '?',
    ':', '*', '&', '!', '|', '>', '\'', '"'].any isWordChar = false)
  simp only [List.forall_mem_cons] at hne
  simp [readToken, hne, startsPlain_of_isWordChar hc]

theorem readToken_colon (h : atWordEnd rest = true) (s : Lexer) :
    s.readToken ':' rest = s.readValue := by
  simp [readToken, h]

theorem readToken_quote (s : Lexer) (rest : List Char) :
    s.readToken '\'' rest = s.readQuoted Quoted.scanSingle := by
  simp [readToken]

end Lexer

/-! ## Words in front of a colon -/

namespace Plain

theorem endsWord_of_isWordChar (hc : isWordChar c = true) (rest : List Char) :
    endsWord false c rest = false := by
  have hne := ne_of_isWordChar hc (by decide : [' ', '\t', ':'].any isWordChar = false)
  simp only [List.forall_mem_cons] at hne
  have hbreak : isBreak c = false :=
    isBreak_eq_false_of_isSolid (isSolid_of_isVisible (isVisible_of_isWordChar hc))
  simp [endsWord, isSpace, hbreak, hne]

theorem takeWord_append_colon {word : List Char} (hword : ∀ c ∈ word, isWordChar c = true)
    (hrest : atWordEnd rest = true) :
    takeWord false (word ++ ':' :: rest) = (word, ':' :: rest) := by
  induction word with
  | nil => simp [takeWord, endsWord, endsKey, hrest]
  | cons c word ih =>
      obtain ⟨hc, hword⟩ := List.forall_mem_cons.mp hword
      simp [takeWord, endsWord_of_isWordChar hc, ih hword]

theorem takeGap_colon (column : Nat) (rest : List Char) :
    takeGap column (':' :: rest) = ⟨[], ':' :: rest, false, column⟩ := rfl

/-- A word in front of a colon is a scalar. -/
theorem scan_word {word : List Char} (hword : IsWord word) (hrest : atWordEnd rest = true)
    (margin column : Nat) :
    scan false margin column (word ++ ':' :: rest) = ⟨word, ':' :: rest, false⟩ := by
  obtain ⟨c, others, hcons⟩ := List.exists_cons_of_ne_nil hword.nonempty
  have hstart : startsWith '#' (word ++ ':' :: rest) = false := by
    have hne := ne_of_isWordChar (hword.chars c (by simp [hcons]))
      (by decide : ['#'].any isWordChar = false)
    have hc : c ≠ '#' := hne '#' (List.mem_singleton.mpr rfl)
    simp [startsWith, hcons, hc]
  rw [scan, scanWords, hstart, takeWord_append_colon hword.chars hrest]
  simp [hcons, takeGap_colon]

end Plain

namespace Lexer

variable {word : List Char} {tokens : List Token} {index line column margin : Nat}
variable {margins : List Nat}

theorem isSolid_of_mem_word (hword : IsWord word) (hc : c ∈ word) : isSolid c = true :=
  isSolid_of_isVisible (isVisible_of_isWordChar (hword.chars c hc))

/-- A word where a key may start waits to be one. -/
theorem readPlain_word (hword : IsWord word) (hrest : atWordEnd rest = true) :
    (Lexer.mk ⟨word ++ ':' :: rest, index, line, column⟩ tokens margin margins none [] true
        false).readPlain =
      .ok ⟨⟨':' :: rest, index + word.length, line, column + word.length⟩,
        .scalar word true :: tokens, margin, margins,
        some ⟨tokens.length, margin == column + 1, index, line, column⟩, [], false, false⟩ := by
  have hmoved := Cursor.moveTo_append (fun c hc => isSolid_of_mem_word hword hc) (':' :: rest) index
    line column
  simp only [readPlain, noteKey, if_true, dropKey, Option.any_none, Bool.false_eq_true, if_false,
    bind, Except.bind, pure, Except.pure, inFlow, List.isEmpty_nil, Bool.not_true, Bool.not_false,
    Bool.true_and, Plain.scan_word hword hrest, moveTo, push, hmoved]

/-- The lexer with a key at this column and its colon, in front of which a mapping is opened if need
be. -/
def pushKey (s : Lexer) (column : Nat) (word : List Char) : Lexer :=
  (((((s.openBlock? column).map (·.push .blockMappingStart)).getD s).push .key).push
    (.scalar word true)).push .value

/-- The colon behind a word that waits makes it a key. -/
theorem readValue_word {start index' line' : Nat} {required : Bool} :
    (Lexer.mk ⟨':' :: rest, index, line, column⟩ (.scalar word true :: tokens) margin margins
        (some ⟨tokens.length, required, index', line', start⟩) [] false false).readValue =
      .ok (pushKey ⟨⟨rest, index + 1, line, column + 1⟩, tokens, margin, margins, none, [], false,
        false⟩ start word) := by
  have hnext : (⟨':' :: rest, index, line, column⟩ : Cursor).next =
      ⟨rest, index + 1, line, column + 1⟩ := Cursor.next_of_isSolid rfl rest index line column
  by_cases hopens : margin ≤ start <;>
    simp [readValue, pushKey, openBlock?, hopens, inFlow, insert, push, skip, Cursor.skip, hnext]

@[simp] theorem cursor_pushKey (s : Lexer) (column : Nat) (word : List Char) :
    (s.pushKey column word).cursor = s.cursor := by
  by_cases h : s.margin ≤ column <;> simp [pushKey, openBlock?, h, push]

@[simp] theorem key?_pushKey (s : Lexer) (column : Nat) (word : List Char) :
    (s.pushKey column word).key? = s.key? := by
  by_cases h : s.margin ≤ column <;> simp [pushKey, openBlock?, h, push]

@[simp] theorem outerKeys_pushKey (s : Lexer) (column : Nat) (word : List Char) :
    (s.pushKey column word).outerKeys = s.outerKeys := by
  by_cases h : s.margin ≤ column <;> simp [pushKey, openBlock?, h, push]

@[simp] theorem keyAllowed_pushKey (s : Lexer) (column : Nat) (word : List Char) :
    (s.pushKey column word).keyAllowed = s.keyAllowed := by
  by_cases h : s.margin ≤ column <;> simp [pushKey, openBlock?, h, push]

@[simp] theorem finished_pushKey (s : Lexer) (column : Nat) (word : List Char) :
    (s.pushKey column word).finished = s.finished := by
  by_cases h : s.margin ≤ column <;> simp [pushKey, openBlock?, h, push]

/-- A key right of the open block opens a mapping. -/
theorem pushKey_of_le {s : Lexer} {column : Nat} (h : s.margin ≤ column) (word : List Char) :
    s.pushKey column word =
      { s with
        tokens := .value :: .scalar word true :: .key :: .blockMappingStart :: s.tokens
        margin := column + 1
        margins := s.margin :: s.margins } := by
  simp [pushKey, openBlock?, h, push]

/-- A key in the column of the open mapping belongs to it. -/
theorem pushKey_of_lt {s : Lexer} {column : Nat} (h : column < s.margin) (word : List Char) :
    s.pushKey column word =
      { s with tokens := .value :: .scalar word true :: .key :: s.tokens } := by
  simp [pushKey, openBlock?, Nat.not_le_of_lt h, push]

theorem margin_pushKey_le (s : Lexer) (column : Nat) (word : List Char) :
    (s.pushKey column word).margin ≤ max s.margin (column + 1) := by
  rcases Nat.lt_or_ge column s.margin with h | h
  · rw [pushKey_of_lt h]
    exact Nat.le_max_left s.margin (column + 1)
  · rw [pushKey_of_le h]
    exact Nat.le_max_right s.margin (column + 1)

/-! ## Scalars in single quotes -/

/-- Where no key may start, a scalar in single quotes is just that. -/
theorem readQuoted_single {s : Lexer} {value : List Char} (hkey : s.keyAllowed = false)
    (hcursor : s.cursor.rest = Quoted.writeSingle value ++ rest)
    (hvalue : ∀ c ∈ value, isBreak c = false) (hrest : rest.head? ≠ some '\'') :
    s.readQuoted Quoted.scanSingle = .ok ((s.moveTo rest).push (.scalar value false)) := by
  have hscan : Quoted.scanSingle s.cursor.rest.tail = .ok (value, rest) := by
    rw [hcursor, ← Quoted.scanSingle_doubleQuotes hvalue hrest]
    simp [Quoted.writeSingle]
  simp only [readQuoted, readKeyable, noteKey, hkey, Bool.false_eq_true, if_false, bind,
    Except.bind, pure, Except.pure, hscan, Except.map, moveTo, push]

/-! ## Runs -/

/-- After `n` tokens the one lexer has become the other, and neither is at the end of the text. -/
inductive Leads : Nat → Lexer → Lexer → Prop where
  | refl (s : Lexer) : Leads 0 s s
  | read {n : Nat} {s next last : Lexer} : s.read = .ok next → next.finished = false →
      Leads n next last → Leads (n + 1) s last

theorem Leads.trans {m n : Nat} {s mid last : Lexer} (h : Leads m s mid) (h' : Leads n mid last) :
    Leads (m + n) s last := by
  induction h with
  | refl s => rwa [Nat.zero_add]
  | read hread hfinished _ ih =>
      rw [Nat.succ_add]
      exact .read hread hfinished (ih h')

/-- A run goes on from where a part of it has led. -/
theorem Leads.run {n : Nat} {s last : Lexer} (h : Leads n s last) (m : Nat) :
    run (n + m) s = run m last := by
  induction h with
  | refl s => rw [Nat.zero_add]
  | read hread hfinished _ ih =>
      rw [Nat.succ_add, Lexer.run, hread]
      simp only [hfinished, Bool.false_eq_true, if_false]
      exact ih

/-- **A key** takes two tokens: a word, and the colon that makes a key of it. -/
theorem leads_key {s : Lexer} (hword : IsWord word) (hrest : atWordEnd rest = true)
    (hgap : s.skipGap = ⟨⟨word ++ ':' :: rest, index, line, column⟩, tokens, margin, margins, none,
      [], true, false⟩)
    (hmargin : margin ≤ column + 1) :
    Leads 2 s (pushKey ⟨⟨rest, index + word.length + 1, line, column + word.length + 1⟩, tokens,
      margin, margins, none, [], false, false⟩ column word) := by
  obtain ⟨c, others, hcons⟩ := List.exists_cons_of_ne_nil hword.nonempty
  have hc : isWordChar c = true := hword.chars c (by simp [hcons])
  have hfresh : isStale ⟨':' :: rest, index + word.length, line, column + word.length⟩
      ⟨tokens.length, margin == column + 1, index, line, column⟩ = false := by
    have hshort := hword.short
    simp [isStale, hshort]
  have hscalar : s.read = .ok ⟨⟨':' :: rest, index + word.length, line, column + word.length⟩,
      .scalar word true :: tokens, margin, margins,
      some ⟨tokens.length, margin == column + 1, index, line, column⟩, [], false, false⟩ := by
    rw [read_eq_readToken hgap (dropStale_of_none rfl rfl) hmargin (by rw [hcons]; rfl),
      readToken_of_isWordChar hc, readPlain_word hword hrest]
  refine .read hscalar rfl (.read ?_ (finished_pushKey _ _ _) (.refl _))
  have hinside : margin ≤ column + word.length + 1 := by omega
  rw [read_eq_readToken (skipGap_of_visible rfl rfl) (dropStale_of_fresh rfl rfl hfresh) hinside
    rfl, readToken_colon hrest, readValue_word]

/-- **A value** in single quotes takes one token. -/
theorem leads_quoted {s : Lexer} {value : List Char} (hkey : s.keyAllowed = false)
    (hwaits : s.key? = none) (houter : s.outerKeys = []) (hfinished : s.finished = false)
    (hcursor : s.cursor = ⟨' ' :: (Quoted.writeSingle value ++ rest), index, line, column⟩)
    (hmargin : s.margin ≤ column + 1)
    (hvalue : ∀ c ∈ value, isBreak c = false) (hrest : rest.head? ≠ some '\'') :
    ∃ cursor, cursor.rest = rest ∧ Leads 1 s { s.push (.scalar value false) with cursor } := by
  have hmoved : s.cursor.moveTo (Quoted.writeSingle value ++ rest) =
      ⟨Quoted.writeSingle value ++ rest, index + 1, line, column + 1⟩ := by
    rw [hcursor]
    have hsolid : ∀ c ∈ [' '], isSolid c = true := List.all_eq_true.mp (by decide)
    exact Cursor.moveTo_append hsolid _ _ _ _
  have hgap : s.skipGap = s.moveTo (Quoted.writeSingle value ++ rest) :=
    skipGap_blank (c := '\'') (by rw [hcursor]; rfl) (by decide)
  have hinside : (s.moveTo (Quoted.writeSingle value ++ rest)).margin ≤
      (s.moveTo (Quoted.writeSingle value ++ rest)).cursor.column + 1 := by
    simp only [Lexer.moveTo, hmoved]
    omega
  have hread : s.read = .ok (((s.moveTo (Quoted.writeSingle value ++ rest)).moveTo rest).push
      (.scalar value false)) := by
    rw [read_eq_readToken (c := '\'') hgap (dropStale_of_none hwaits houter) hinside
        (congrArg Cursor.rest hmoved), readToken_quote]
    exact readQuoted_single hkey (congrArg Cursor.rest hmoved) hvalue hrest
  refine ⟨_, ?_, .read hread hfinished (.refl _)⟩
  exact Cursor.rest_moveTo (congrArg Cursor.rest hmoved)

/-! ## The end -/

/-- Closing blocks moves nothing, and it opens and closes no flow collection. -/
theorem closeBlocks_go_keeps (margin : Nat) (s : Lexer) (outer : List Nat) :
    (closeBlocks.go margin s outer).cursor = s.cursor ∧
      (closeBlocks.go margin s outer).outerKeys = s.outerKeys := by
  induction outer generalizing s with
  | nil => exact ⟨rfl, rfl⟩
  | cons first outer ih =>
      rw [closeBlocks.go]
      split
      · exact ih _
      · exact ⟨rfl, rfl⟩

theorem cursor_closeBlocks (s : Lexer) (margin : Nat) :
    (s.closeBlocks margin).cursor = s.cursor := by
  unfold closeBlocks
  split
  · rfl
  · exact (closeBlocks_go_keeps margin s s.margins).1

theorem closeBlocks_go_zero (margin : Nat) (s : Lexer) :
    closeBlocks.go 0 (closeBlocks.go margin s s.margins)
        (closeBlocks.go margin s s.margins).margins =
      closeBlocks.go 0 s s.margins := by
  induction hm : s.margins generalizing s with
  | nil => rw [closeBlocks.go, hm]
  | cons outer margins ih =>
      by_cases h : margin < s.margin
      · rw [closeBlocks.go, if_pos h, closeBlocks.go, if_pos (Nat.zero_lt_of_lt h)]
        exact ih { s with tokens := .blockEnd :: s.tokens, margin := outer, margins } rfl
      · rw [closeBlocks.go, if_neg h, hm]

/-- The blocks that are closed at the end are closed together with those that are closed before. -/
theorem closeBlocks_closeBlocks_zero (s : Lexer) (margin : Nat) :
    (s.closeBlocks margin).closeBlocks 0 = s.closeBlocks 0 := by
  unfold closeBlocks
  by_cases hflow : s.inFlow = true
  · simp only [hflow, if_true]
  · have hflow' : (closeBlocks.go margin s s.margins).inFlow = s.inFlow := by
      rw [inFlow, (closeBlocks_go_keeps margin s s.margins).2, inFlow]
    simp only [hflow, hflow', Bool.false_eq_true, if_false, closeBlocks_go_zero]

/-- **The end** is read where the gap before it ends. -/
theorem read_eq_readEnd {s moved : Lexer} (hgap : s.skipGap = moved)
    (hstale : moved.dropStale = .ok moved) (hrest : moved.cursor.rest = []) :
    s.read = moved.readEnd := by
  rw [read, hgap, hstale]
  simp only [bind, Except.bind, cursor_closeBlocks, hrest, readEnd, closeBlocks_closeBlocks_zero]

end Lexer

end EventMessages.Yaml
