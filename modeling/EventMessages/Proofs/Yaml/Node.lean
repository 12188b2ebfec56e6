import EventMessages.Proofs.Yaml.Section
import EventMessages.Yaml.Node

/-!
# EventMessages.Proofs.Yaml.Node

The nodes of a section. A mapping comes before its members, and these come in the order in which
they are written: key, value, key, value. So the places of the nodes follow from the number of
entries (`Graph.ofTokens?_tokens`). A quoted text is a text, whatever it looks like.
-/

namespace EventMessages.Yaml

/-- What succeeds hands its result and its state on. -/
theorem run_bind_of_ok {σ ε α β : Type} {x : StateT σ (Except ε) α} {a : α} {s s' : σ}
    (h : x.run s = .ok (a, s')) (f : α → StateT σ (Except ε) β) :
    (x >>= f).run s = (f a).run s' := by
  rw [StateT.run_bind, h]
  rfl

/-! ## Places -/

/-- The places of entries whose keys and values are scalars, from a place on. -/
def placesFrom : NodeId → List Entry → List (NodeId × NodeId)
  | _, [] => []
  | id, _ :: entries => (id, id + 1) :: placesFrom (id + 2) entries

def Entry.nodes (e : Entry) : List Node := [⟨.text, .scalar e.word⟩, ⟨.text, .scalar e.value⟩]

def Section.nodes (s : Section) : List Node :=
  ⟨.mapping, .mapping [(1, 2)]⟩ :: ⟨.text, .scalar s.word⟩ ::
    ⟨.mapping, .mapping (placesFrom 3 s.entries)⟩ :: s.entries.flatMap Entry.nodes

theorem length_flatMap_const {α : Type} {f : Entry → List α} {n : Nat}
    (h : ∀ e, (f e).length = n) (entries : List Entry) :
    (entries.flatMap f).length = n * entries.length := by
  simp only [List.length_flatMap, h, List.map_const', List.sum_replicate_nat, Nat.mul_comm]

theorem Section.length_nodes (s : Section) : s.nodes.length = 2 * s.entries.length + 3 := by
  have hentries : (s.entries.flatMap Entry.nodes).length = 2 * s.entries.length :=
    length_flatMap_const (f := Entry.nodes) (fun _ => rfl) s.entries
  simp only [Section.nodes, List.length_cons, hentries]

theorem Section.length_tokens (s : Section) : s.tokens.length = 4 * s.entries.length + 8 := by
  have hentries : (s.entries.flatMap Entry.tokens).length = 4 * s.entries.length :=
    length_flatMap_const (f := Entry.tokens) (fun _ => rfl) s.entries
  simp only [Section.tokens, List.length_cons, List.length_append, List.length_nil, hentries]

namespace Graph

/-- A reader past these nodes and in front of these tokens. -/
def Reader.past (r : Reader) (nodes : List Node) (tokens : List Token) : Reader :=
  { r with nodes, tokens }

variable {r r₁ r₂ : Reader} {tokens rest : List Token} {nodes members : List Node} {id : NodeId}
variable {ids : List (NodeId × NodeId)} {entries : List Entry} {s : Section} {n : Nat}
variable {word : List Char} {place : Place}

/-! ## Scalars -/

theorem run_node_scalar (r : Reader) (nodes : List Node) (n : Nat) (place : Place)
    (text : List Char) (plain : Bool) :
    (node (n + 1) place).run (r.past nodes (.scalar text plain :: rest)) =
      .ok (nodes.length, r.past (nodes ++ [⟨scalarTag none text plain, .scalar text⟩]) rest) := by
  rw [node]
  rfl

theorem run_node_word (hword : IsWord word) (r : Reader) (nodes : List Node) (n : Nat)
    (place : Place) :
    (node (n + 1) place).run (r.past nodes (.scalar word true :: rest)) =
      .ok (nodes.length, r.past (nodes ++ [⟨.text, .scalar word⟩]) rest) := by
  have htag : scalarTag none word true = .text := hword.text
  rw [run_node_scalar, htag]

theorem run_blockValue_quoted (r : Reader) (nodes : List Node) (n : Nat) (text : List Char)
    (rest : List Token) :
    (blockValue (n + 2)).run (r.past nodes (.value :: .scalar text false :: rest)) =
      .ok (nodes.length, r.past (nodes ++ [⟨.text, .scalar text⟩]) rest) := by
  rw [blockValue]
  exact run_node_scalar r nodes n .mapped text false

/-! ## Block mappings -/

theorem run_blockEntries_end (r : Reader) (nodes : List Node) (n : Nat) (rest : List Token) :
    (blockEntries (n + 1)).run (r.past nodes (.blockEnd :: rest)) =
      .ok ([], r.past nodes rest) := by
  rw [blockEntries]
  rfl

/-- An entry with a word as its key, and the entries after it. -/
theorem run_blockEntries_word (nodes : List Node) (hword : IsWord word)
    (hvalue : (blockValue (n + 1)).run (r.past (nodes ++ [⟨.text, .scalar word⟩]) tokens) =
      .ok (id, r₁))
    (hothers : (blockEntries (n + 1)).run r₁ = .ok (ids, r₂)) :
    (blockEntries (n + 2)).run (r.past nodes (.key :: .scalar word true :: tokens)) =
      .ok ((nodes.length, id) :: ids, r₂) := by
  rw [blockEntries]
  calc
    _ = (node (n + 1) .mapped >>= fun key => do
          let value ← blockValue (n + 1)
          let others ← blockEntries (n + 1)
          pure ((key, value) :: others)).run (r.past nodes (.scalar word true :: tokens)) := rfl
    _ = .ok ((nodes.length, id) :: ids, r₂) := by
        rw [run_bind_of_ok (run_node_word hword r nodes n .mapped), run_bind_of_ok hvalue,
          run_bind_of_ok hothers]
        rfl

/-- The entries of a section, each of which takes two places. -/
theorem run_blockEntries (hentries : ∀ e ∈ entries, e.IsPlain) (hn : entries.length + 2 ≤ n)
    (r : Reader) (nodes : List Node) (rest : List Token) :
    (blockEntries n).run (r.past nodes (entries.flatMap Entry.tokens ++ .blockEnd :: rest)) =
      .ok (placesFrom nodes.length entries,
        r.past (nodes ++ entries.flatMap Entry.nodes) rest) := by
  induction entries generalizing n nodes with
  | nil =>
      obtain ⟨n, rfl⟩ := Nat.exists_eq_add_of_le' hn
      simp only [List.flatMap_nil, List.append_nil]
      exact run_blockEntries_end r nodes (n + 1) rest
  | cons e entries ih =>
      obtain ⟨he, hentries⟩ := List.forall_mem_cons.mp hentries
      obtain ⟨n, rfl⟩ := Nat.exists_eq_add_of_le' hn
      have hvalue := run_blockValue_quoted r (nodes ++ [⟨.text, .scalar e.word⟩])
        (n + entries.length) e.value (entries.flatMap Entry.tokens ++ .blockEnd :: rest)
      have hothers := ih hentries (by omega : entries.length + 2 ≤ n + entries.length + 2)
        (nodes ++ e.nodes)
      have hread := run_blockEntries_word nodes he.word hvalue
        (by simpa [Entry.nodes] using hothers)
      simpa [placesFrom, Entry.tokens, Entry.nodes, Nat.add_assoc] using hread

/-- Members that are not nested too deep are read with less room, which is given back. -/
theorem run_nested {α : Type} {read : Read α} {a : α} {room : Nat} (hroom : r.room = room + 1)
    (h : read.run (Reader.past { r with room } nodes tokens) =
      .ok (a, Reader.past { r with room } members rest)) :
    (nested read).run (r.past nodes tokens) = .ok (a, r.past members rest) := by
  have hget : (get : Read Reader).run (r.past nodes tokens) =
      .ok (r.past nodes tokens, r.past nodes tokens) := rfl
  have hpast : (r.past nodes tokens).room = room + 1 := hroom
  have hback : { Reader.past { r with room } members rest with room := room + 1 } =
      r.past members rest := by
    rw [← hroom]
    rfl
  rw [nested, run_bind_of_ok hget]
  simp only [hpast]
  calc
    _ = (read >>= fun a => do
          modify fun r => { r with room := room + 1 }
          pure a).run (Reader.past { r with room } nodes tokens) := rfl
    _ = (modify (fun r => { r with room := room + 1 }) >>= fun _ => pure a : Read α).run
          (Reader.past { r with room } members rest) := run_bind_of_ok h _
    _ = .ok (a, r.past members rest) := congrArg (fun back => Except.ok (a, back)) hback

/-- A block mapping takes the place in front of its members. -/
theorem run_node_mapping (nodes : List Node) (place : Place) (hplace : place.isBlock = true)
    {room : Nat} (hroom : r.room = room + 1)
    (h : (blockEntries n).run (Reader.past { r with room } (nodes ++ [⟨.mapping, .mapping []⟩])
      tokens) = .ok (ids, Reader.past { r with room }
        (nodes ++ ⟨.mapping, .mapping []⟩ :: members) rest)) :
    (node (n + 1) place).run (r.past nodes (.blockMappingStart :: tokens)) =
      .ok (nodes.length, r.past (nodes ++ ⟨.mapping, .mapping ids⟩ :: members) rest) := by
  have hset : (nodes ++ ⟨.mapping, .mapping []⟩ :: members).modify nodes.length
      (fun node => { node with content := .mapping ids }) =
      nodes ++ ⟨.mapping, .mapping ids⟩ :: members := by
    simp [List.modify_eq_take_cons_drop]
  rw [node]
  calc
    _ = (nested (blockEntries n) >>= fun entries => do
          setContent nodes.length (.mapping entries)
          pure nodes.length).run (r.past (nodes ++ [⟨.mapping, .mapping []⟩]) tokens) := by
        cases place with
        | flow => exact absurd hplace Bool.false_ne_true
        | block => rfl
        | mapped => rfl
    _ = (setContent nodes.length (.mapping ids) >>= fun _ => pure nodes.length).run
          (r.past (nodes ++ ⟨.mapping, .mapping []⟩ :: members) rest) :=
        run_bind_of_ok (run_nested hroom h) _
    _ = .ok (nodes.length, r.past (nodes ++ ⟨.mapping, .mapping ids⟩ :: members) rest) :=
        congrArg (fun set => Except.ok (nodes.length, r.past set rest)) hset

theorem run_blockValue_mapping
    (h : (node (n + 1) .mapped).run (r.past nodes (.blockMappingStart :: tokens)) = .ok (id, r₁)) :
    (blockValue (n + 2)).run (r.past nodes (.value :: .blockMappingStart :: tokens)) =
      .ok (id, r₁) := by
  rw [blockValue]
  exact h

/-! ## Sections -/

/-- The mapping of a section, whose only value is the mapping of its entries. -/
theorem run_node_section (hs : s.IsPlain) (hn : s.entries.length + 6 ≤ n) {room : Nat}
    (hroom : r.room = room + 2) (rest : List Token) :
    (node n .block).run
        (r.past [] (.blockMappingStart :: .key :: .scalar s.word true :: .value ::
          .blockMappingStart ::
            (s.entries.flatMap Entry.tokens ++ .blockEnd :: .blockEnd :: rest))) =
      .ok (0, r.past s.nodes rest) := by
  obtain ⟨n, rfl⟩ := Nat.exists_eq_add_of_le' hn
  have hentries := run_blockEntries hs.entries
    (by omega : s.entries.length + 2 ≤ n + s.entries.length + 2) { r with room }
    [⟨.mapping, .mapping []⟩, ⟨.text, .scalar s.word⟩, ⟨.mapping, .mapping []⟩] (.blockEnd :: rest)
  have hvalue := run_blockValue_mapping
    (run_node_mapping (r := { r with room := room + 1 })
      [⟨.mapping, .mapping []⟩, ⟨.text, .scalar s.word⟩] .mapped rfl rfl hentries)
  have houter := run_blockEntries_word [⟨.mapping, .mapping []⟩] hs.word hvalue
    (run_blockEntries_end { r with room := room + 1 } _ (n + s.entries.length + 3) rest)
  exact run_node_mapping [] .block rfl hroom houter

theorem run_document (hs : s.IsPlain) (hn : s.entries.length + 6 ≤ n) {room : Nat}
    (hroom : r.room = room + 2) :
    (document n).run (r.past [] s.tokens) =
      .ok (some 0, { r.past s.nodes [.streamEnd] with handles := defaultHandles }) := by
  obtain ⟨n, rfl⟩ := Nat.exists_eq_add_of_le' hn
  have hmodify : (modify fun r => { r with handles := defaultHandles } : Read PUnit).run
      (r.past [] s.tokens) =
      .ok ((), Reader.past { r with handles := defaultHandles } [] s.tokens) := rfl
  have hroot : (node (n + (s.entries.length + 6)) .block).run
      (Reader.past { r with handles := defaultHandles } [] s.tokens) =
      .ok (0, Reader.past { r with handles := defaultHandles } s.nodes [.streamEnd]) :=
    run_node_section (r := { r with handles := defaultHandles }) hs hn hroom [.streamEnd]
  have hpeek : peek.run (r.past [] s.tokens) = .ok (.blockMappingStart, r.past [] s.tokens) := rfl
  rw [document, run_bind_of_ok hpeek]
  simp only
  rw [run_bind_of_ok hmodify, run_bind_of_ok hroot]
  rfl

/-- **The nodes of a section.** -/
theorem ofTokens?_tokens (hs : s.IsPlain) :
    ofTokens? ⟨s.tokens, none⟩ = .ok (some ⟨s.nodes, 0⟩) := by
  obtain ⟨room, hroom⟩ : ∃ room, nestingLimit = room + 2 := ⟨_, rfl⟩
  have hdocument := run_document (n := 3 * (s.tokens.length + 1))
    (r := ⟨[], .malformed, [], [], [], nestingLimit⟩) hs (by rw [Section.length_tokens]; omega)
    hroom
  calc
    _ = ((document (3 * (s.tokens.length + 1))).run
          (Reader.past ⟨[], .malformed, [], [], [], nestingLimit⟩ [] s.tokens) >>= fun read =>
            pure (read.1.map (Graph.mk read.2.nodes))) := rfl
    _ = .ok (some ⟨s.nodes, 0⟩) := by
        rw [hdocument]
        rfl

end Graph

end EventMessages.Yaml
