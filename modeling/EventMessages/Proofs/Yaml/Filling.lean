import EventMessages.Proofs.Yaml.Node
import EventMessages.Yaml.Filling
import Mathlib.Data.List.Forall2

/-!
# EventMessages.Proofs.Yaml.Filling

The data of a section. Its root is a mapping from the word to a mapping, and this one leads from the
word of each entry to its value (`Document.ofText_text`). No value is taken for anything but a text.
-/

namespace EventMessages.Yaml

/-! ## Data -/

def Entry.data (e : Entry) : List (Option Datum) :=
  [some (.text (String.ofList e.word)), some (.text (String.ofList e.value))]

def Section.data (s : Section) : List (Option Datum) :=
  some (.mapping [(1, 2)]) :: some (.text (String.ofList s.word)) ::
    some (.mapping (placesFrom 3 s.entries)) :: s.entries.flatMap Entry.data

namespace Filling

/-- Nodes without keys that a mapping treats apart. -/
def IsPlain (nodes : List Node) : Prop := ∀ node ∈ nodes, node.tag ≠ .merge ∧ node.tag ≠ .default

variable {nodes : List Node} {before after : List (Option Datum)} {waiting : List NodeId}
variable {id : NodeId} {text : List Char} {node : Node} {entries : List (NodeId × NodeId)}
variable {data : List (Option Datum)} {f : Filling}

theorem run_get (f : Filling) : (get : Fill Filling).run f = .ok (f, f) := rfl

theorem run_nodeAt (h : f.nodes[id]? = some node) : (nodeAt id).run f = .ok (node, f) := by
  rw [nodeAt, run_bind_of_ok (run_get f), h]
  rfl

/-! ## Meanings -/

theorem exists_chainLimit_eq : ∃ depth, chainLimit = depth + 1 := ⟨_, rfl⟩

theorem run_meaning_text (h : f.nodes[id]? = some ⟨.text, .scalar text⟩) :
    (meaning id).run f = .ok (.text (String.ofList text), f) := by
  have hnode := run_nodeAt h
  have hscalar : (scalarText chainLimit id).run f = .ok (text, f) := by
    obtain ⟨depth, hdepth⟩ := exists_chainLimit_eq
    rw [hdepth, scalarText, run_bind_of_ok hnode]
    rfl
  rw [meaning, run_bind_of_ok hnode]
  calc
    _ = (scalarText chainLimit id >>= fun text =>
          pure (Datum.text (String.ofList text))).run f := rfl
    _ = .ok (.text (String.ofList text), f) := by
        rw [run_bind_of_ok hscalar]
        rfl

theorem run_meaning_mapping (h : f.nodes[id]? = some ⟨.mapping, .mapping entries⟩) :
    (meaning id).run f = .ok (.mapping [], f) := by
  rw [meaning, run_bind_of_ok (run_nodeAt h)]
  rfl

/-- A place without a datum gets the meaning of its node. -/
theorem run_datum {d : Datum}
    (h : (meaning before.length).run ⟨nodes, before ++ none :: after, waiting⟩ =
      .ok (d, ⟨nodes, before ++ none :: after, waiting⟩)) :
    (datum before.length).run ⟨nodes, before ++ none :: after, waiting⟩ =
      .ok (d, ⟨nodes, before ++ some d :: after,
        if d.isKey then waiting else waiting ++ [before.length]⟩) := by
  have hnone : (before ++ none :: after).getD before.length none = none := by simp
  have hset : (before ++ none :: after).set before.length (some d) = before ++ some d :: after := by
    simp
  rw [datum, run_bind_of_ok (run_get _)]
  simp only [hnone]
  rw [run_bind_of_ok h]
  exact congrArg (fun data => Except.ok (d, Filling.mk nodes data _)) hset

theorem run_datum_text (before after : List (Option Datum)) (waiting : List NodeId)
    (h : nodes[before.length]? = some ⟨.text, .scalar text⟩) :
    (datum before.length).run ⟨nodes, before ++ none :: after, waiting⟩ =
      .ok (.text (String.ofList text),
        ⟨nodes, before ++ some (.text (String.ofList text)) :: after, waiting⟩) :=
  run_datum (run_meaning_text h)

theorem run_datum_mapping (before after : List (Option Datum)) (waiting : List NodeId)
    (h : nodes[before.length]? = some ⟨.mapping, .mapping entries⟩) :
    (datum before.length).run ⟨nodes, before ++ none :: after, waiting⟩ =
      .ok (.mapping [],
        ⟨nodes, before ++ some (.mapping []) :: after, waiting ++ [before.length]⟩) :=
  run_datum (run_meaning_mapping h)

/-! ## Entries -/

theorem run_fillEntries_cons {key value : NodeId} {d d' : Datum} {f₁ f₂ : Filling}
    (others : List (NodeId × NodeId)) (hkey : (datum key).run f = .ok (d, f₁))
    (hisKey : d.isKey = true) (hvalue : (datum value).run f₁ = .ok (d', f₂)) :
    (fillEntries ((key, value) :: others)).run f = (fillEntries others).run f₂ := by
  rw [fillEntries, run_bind_of_ok hkey, if_pos hisKey, run_bind_of_ok hvalue]

/-- The words and the values of the entries get their meanings in the order of their places. -/
theorem run_fillEntries (others : List Entry) (nodes : List Node) (data : List (Option Datum))
    (hlength : nodes.length = data.length) (waiting : List NodeId) :
    (fillEntries (placesFrom data.length others)).run
        ⟨nodes ++ others.flatMap Entry.nodes, data ++ List.replicate (2 * others.length) none,
          waiting⟩ =
      .ok ((), ⟨nodes ++ others.flatMap Entry.nodes, data ++ others.flatMap Entry.data,
        waiting⟩) := by
  induction others generalizing nodes data with
  | nil => rfl
  | cons e others ih =>
      -- the first two places without a datum are those of this entry
      have hword : (nodes ++ (e :: others).flatMap Entry.nodes)[data.length]? =
          some ⟨.text, .scalar e.word⟩ := by simp [Entry.nodes, ← hlength]
      have htext : (nodes ++ (e :: others).flatMap Entry.nodes)[
          (data ++ [some (Datum.text (String.ofList e.word))]).length]? =
          some ⟨.text, .scalar e.value⟩ := by simp [Entry.nodes, ← hlength]
      have hkey := run_datum_text data (none :: List.replicate (2 * others.length) none) waiting
        hword
      have hvalue := run_datum_text _ (List.replicate (2 * others.length) none) waiting htext
      have hothers := ih (nodes ++ e.nodes) (data ++ e.data)
        (by simp [Entry.nodes, Entry.data, hlength])
      rw [placesFrom]
      calc
        _ = (fillEntries (placesFrom (data ++ e.data).length others)).run
              ⟨nodes ++ e.nodes ++ others.flatMap Entry.nodes,
                data ++ e.data ++ List.replicate (2 * others.length) none, waiting⟩ := by
            simpa [Entry.nodes, Entry.data, Nat.mul_succ, List.replicate_succ] using
              run_fillEntries_cons _ hkey rfl (by simpa [Entry.nodes] using hvalue)
        _ = .ok ((), ⟨nodes ++ (e :: others).flatMap Entry.nodes,
              data ++ (e :: others).flatMap Entry.data, waiting⟩) := by
            simpa using hothers

/-! ## Mappings -/

/-- A node that a change leaves as it is. -/
theorem modify_eq_self_of_getElem? {change : Node → Node}
    (h : ∀ node, nodes[id]? = some node → change node = node) : nodes.modify id change = nodes := by
  refine List.ext_getElem? fun i => ?_
  rw [List.getElem?_modify]
  cases hi : nodes[i]? with
  | none => rfl
  | some node =>
      by_cases hid : id = i
      · simp [hid, h node (hid ▸ hi)]
      · simp [hid]

theorem isMerge_eq_false (hplain : IsPlain nodes) (e : NodeId × NodeId) :
    isMerge nodes e = false := by
  rw [isMerge]
  cases hnode : nodes[e.1]? with
  | none => rfl
  | some node => simp [(hplain node (List.mem_of_getElem? hnode)).1]

theorem run_plainKeys (hplain : IsPlain f.nodes) (entries : List (NodeId × NodeId)) :
    (plainKeys entries).run f = .ok ((), f) := by
  have hkept : entries.foldl (fun nodes e => nodes.modify e.1 fun node =>
      if node.tag = .default then { node with tag := .text } else node) f.nodes = f.nodes := by
    induction entries with
    | nil => rfl
    | cons e entries ih =>
        rw [List.foldl_cons, modify_eq_self_of_getElem? fun node hnode => ?_, ih]
        rw [if_neg (hplain node (List.mem_of_getElem? hnode)).2]
  show Except.ok ((), { f with nodes := entries.foldl _ f.nodes }) = _
  rw [hkept]

theorem run_setEntries (h : f.nodes[id]? = some ⟨.mapping, .mapping entries⟩) :
    (setEntries id entries).run f = .ok ((), f) := by
  have hkept : (f.nodes.modify id fun node => { node with content := .mapping entries }) =
      f.nodes := by
    refine modify_eq_self_of_getElem? fun node hnode => ?_
    obtain rfl : ⟨.mapping, .mapping entries⟩ = node := Option.some.inj (h.symm.trans hnode)
    rfl
  show Except.ok ((), { f with nodes := f.nodes.modify id _ }) = _
  rw [hkept]

/-- Nothing is merged into a plain mapping. -/
theorem run_flatten (hplain : IsPlain f.nodes)
    (h : f.nodes[id]? = some ⟨.mapping, .mapping entries⟩) (n depth : Nat) :
    (flatten (n + 2) (depth + 1) id).run f = .ok ((), f) := by
  have hnone : entries.find? (isMerge f.nodes) = none :=
    List.find?_eq_none.mpr fun e _ => by simp [isMerge_eq_false hplain e]
  rw [flatten, collect, run_bind_of_ok (run_nodeAt h), run_bind_of_ok (run_get f)]
  simp only [hnone]
  exact (run_bind_of_ok (run_plainKeys hplain entries) _).trans (run_setEntries h)

/-- A mapping that nothing is merged into keeps its entries, which get their meanings. -/
theorem run_fill_mapping (hplain : IsPlain f.nodes)
    (h : f.nodes[id]? = some ⟨.mapping, .mapping entries⟩)
    (hfill : (fillEntries entries).run f = .ok ((), ⟨f.nodes, data, waiting⟩)) :
    (fill id).run f = .ok ((), ⟨f.nodes, data.set id (some (.mapping entries)), waiting⟩) := by
  have hnode := run_nodeAt h
  obtain ⟨n, hn⟩ : ∃ n, flattenSteps f.nodes = n + 2 := by
    refine Nat.exists_eq_add_of_le' ?_
    rw [flattenSteps]
    exact Nat.le_trans (by decide) (Nat.mul_le_mul (Nat.le_add_left 3 _) (Nat.le_add_left 3 _))
  have hentries : (entriesOf id).run f = .ok (entries, ⟨f.nodes, data, waiting⟩) := by
    rw [entriesOf, run_bind_of_ok hnode]
    simp only
    obtain ⟨depth, hdepth⟩ := exists_chainLimit_eq
    rw [run_bind_of_ok (run_get f), hn, hdepth, run_bind_of_ok (run_flatten hplain h n depth),
      run_bind_of_ok hnode]
    exact run_bind_of_ok hfill _
  rw [fill, run_bind_of_ok hnode]
  exact run_bind_of_ok hentries _

/-! ## Sections -/

theorem run_fillWaiting_nil (n : Nat) (nodes : List Node) (data : List (Option Datum)) :
    (fillWaiting n).run ⟨nodes, data, []⟩ = .ok ((), ⟨nodes, data, []⟩) := by
  cases n with
  | zero => rfl
  | succ n => rfl

theorem run_fillWaiting_cons {filled : Filling}
    (h : (fill id).run ⟨nodes, data, waiting⟩ = .ok ((), filled)) (n : Nat) :
    (fillWaiting (n + 1)).run ⟨nodes, data, id :: waiting⟩ = (fillWaiting n).run filled := by
  calc
    _ = (fill id >>= fun _ => fillWaiting n).run ⟨nodes, data, waiting⟩ := rfl
    _ = (fillWaiting n).run filled := run_bind_of_ok h _

theorem isPlain_nodes (s : Section) : IsPlain s.nodes := by
  intro node hnode
  have htag : node.tag = .mapping ∨ node.tag = .text := by
    rw [Section.nodes] at hnode
    simp only [List.mem_cons, List.mem_flatMap, Entry.nodes, List.not_mem_nil, or_false] at hnode
    rcases hnode with rfl | rfl | rfl | ⟨e, -, rfl | rfl⟩ <;> simp
  rcases htag with htag | htag <;> simp [htag]

theorem run_fill_root (s : Section) :
    (fill 0).run
        ⟨s.nodes, some (.mapping []) :: none :: none :: List.replicate (2 * s.entries.length) none,
          []⟩ =
      .ok ((), ⟨s.nodes, some (.mapping [(1, 2)]) :: some (.text (String.ofList s.word)) ::
        some (.mapping []) :: List.replicate (2 * s.entries.length) none, [2]⟩) := by
  have hword : s.nodes[1]? = some ⟨.text, .scalar s.word⟩ := rfl
  have hmapping : s.nodes[2]? = some ⟨.mapping, .mapping (placesFrom 3 s.entries)⟩ := rfl
  have hkey := run_datum_text [some (.mapping [])]
    (none :: List.replicate (2 * s.entries.length) none) [] hword
  have hvalue := run_datum_mapping [some (.mapping []), some (.text (String.ofList s.word))]
    (List.replicate (2 * s.entries.length) none) [] hmapping
  exact run_fill_mapping (f := ⟨s.nodes, _, []⟩) (isPlain_nodes s) rfl
    (run_fillEntries_cons [] hkey rfl hvalue)

theorem run_fill_entries (s : Section) :
    (fill 2).run
        ⟨s.nodes, some (.mapping [(1, 2)]) :: some (.text (String.ofList s.word)) ::
          some (.mapping []) :: List.replicate (2 * s.entries.length) none, []⟩ =
      .ok ((), ⟨s.nodes, s.data, []⟩) := by
  have hfill := run_fillEntries s.entries
    [⟨.mapping, .mapping [(1, 2)]⟩, ⟨.text, .scalar s.word⟩,
      ⟨.mapping, .mapping (placesFrom 3 s.entries)⟩]
    [some (.mapping [(1, 2)]), some (.text (String.ofList s.word)), some (.mapping [])] rfl []
  exact run_fill_mapping (f := ⟨s.nodes, _, []⟩) (isPlain_nodes s) rfl hfill

end Filling

open Filling

/-- **The data of a section.** -/
theorem Document.ofGraph_nodes (s : Section) :
    ofGraph ⟨s.nodes, 0⟩ = .ok ⟨s.data, .mapping [(1, 2)]⟩ := by
  have hroot : (datum 0).run
      ⟨s.nodes, none :: none :: none :: List.replicate (2 * s.entries.length) none, []⟩ =
      .ok (.mapping [], ⟨s.nodes,
        some (.mapping []) :: none :: none :: List.replicate (2 * s.entries.length) none, [0]⟩) :=
    run_datum_mapping [] _ [] rfl
  have hlength : s.nodes.length = 2 * s.entries.length + 3 := Section.length_nodes s
  have hstart : s.nodes.map (fun _ => (none : Option Datum)) =
      none :: none :: none :: List.replicate (2 * s.entries.length) none := by
    rw [List.map_const', hlength]
    rfl
  have hrun : (datum 0 >>= fun _ => fillWaiting s.nodes.length).run
      ⟨s.nodes, s.nodes.map fun _ => none, []⟩ = .ok ((), ⟨s.nodes, s.data, []⟩) := by
    -- the mapping of the entries is met when the root is filled, and nothing else waits
    rw [hstart, hlength, run_bind_of_ok hroot, run_fillWaiting_cons (run_fill_root s),
      run_fillWaiting_cons (run_fill_entries s), run_fillWaiting_nil]
  calc
    _ = ((datum 0 >>= fun _ => fillWaiting s.nodes.length).run
          ⟨s.nodes, s.nodes.map fun _ => none, []⟩ >>= fun done =>
            pure (Document.mk done.2.data ((done.2.data.getD 0 none).getD .null))) := rfl
    _ = .ok ⟨s.data, .mapping [(1, 2)]⟩ := by
        rw [hrun]
        rfl

/-- **A section, read back.** -/
theorem Document.ofText_text {s : Section} {ending : List Char} (hs : s.IsPlain)
    (hending : ending = [] ∨ ending = ['\n']) (hallowed : ∀ c ∈ s.text, isAllowed c = true) :
    ofText (s.text ++ ending) = .ok ⟨s.data, .mapping [(1, 2)]⟩ := by
  have hall : (s.text ++ ending).all isAllowed = true := by
    rw [List.all_append, List.all_eq_true.mpr hallowed]
    rcases hending with rfl | rfl <;> rfl
  rw [ofText, hall, Section.tokenStream_text hs hending, Graph.ofTokens?_tokens hs]
  exact ofGraph_nodes s

/-- The mapping of the entries leads from their words to their values. -/
theorem Document.forall₂_placesFrom {d : Document} (entries : List Entry)
    (front : List (Option Datum)) (hd : d.data = front ++ entries.flatMap Entry.data) :
    List.Forall₂ (fun place e => d.datumAt place.1 = .text (String.ofList e.word) ∧
      d.datumAt place.2 = .text (String.ofList e.value)) (placesFrom front.length entries)
      entries := by
  induction entries generalizing front with
  | nil => exact .nil
  | cons e entries ih =>
      have hothers := ih (front ++ e.data) (by simpa using hd)
      refine .cons ⟨?_, ?_⟩ (by simpa [Entry.data] using hothers)
      · simp [datumAt, hd, Entry.data]
      · simp [datumAt, hd, Entry.data]

end EventMessages.Yaml
