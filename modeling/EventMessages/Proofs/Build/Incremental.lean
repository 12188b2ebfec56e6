import EventMessages.Proofs.Build.History
import EventMessages.Proofs.Build.Places

/-!
# EventMessages.Proofs.Build.Incremental

Building incrementally. The message compiler is a function here: it makes the header from the
definition and touches nothing else of the project. Then the constants file that a build leaves is
the one that a build without any constants file makes, whatever was edited and built before.
-/

namespace EventMessages

open Job

namespace Places

variable {places : Places} {settings : Settings} {project : Project}
variable {compile : List UInt8 → List UInt8} {fs : FileSystem} {script : List Performance}
variable {definition : List UInt8} {call : Call}

/-! ## Compilers -/

/-- The message compiler makes the header from the definition, and of the project's files the
compilers touch nothing else. -/
structure Complies (places : Places) (compile : List UInt8 → List UInt8) (fs : FileSystem)
    (script : List Performance) : Prop where
  header : ∀ definition, fs.item? places.definition = some (.file definition) →
    (afterMessages fs script).item? places.header = some (.file (compile definition))
  definition : (afterMessages fs script).item? places.definition = fs.item? places.definition
  constants : (afterMessages fs script).item? places.constants = fs.item? places.constants
  resources : ∀ location ∈ [places.definition, places.header, places.constants],
    (afterCompilers fs script).item? location = (afterMessages fs script).item? location

theorem Complies.item?_definition (hp : places.Complies compile fs script) :
    (afterCompilers fs script).item? places.definition = fs.item? places.definition :=
  (hp.resources _ (by simp)).trans hp.definition

theorem Complies.item?_constants (hp : places.Complies compile fs script) :
    (afterCompilers fs script).item? places.constants = fs.item? places.constants :=
  (hp.resources _ (by simp)).trans hp.constants

theorem Complies.item?_header (hp : places.Complies compile fs script)
    (hm : fs.item? places.definition = some (.file definition)) :
    (afterCompilers fs script).item? places.header = some (.file (compile definition)) :=
  (hp.resources _ (by simp)).trans (hp.header definition hm)

/-- Compilers that comply leave the constants file as it is read. -/
theorem Complies.read?_constants (hp : places.Complies compile fs script)
    (h : places.Lead settings project fs) :
    (afterCompilers fs script).read? (nativeConstants settings project) =
      fs.read? (nativeConstants settings project) := by
  have hi := hp.item?_constants
  have h' : (afterCompilers fs script).LeadsTo (nativeConstants settings project)
      places.constants :=
    h.constants.keep (keepsDirectories_afterCompilers fs script)
      (by rw [hi]; exact h.constants.item_ne)
  exact h.constants.read?_eq h' hi

theorem Lead.afterCompilers (h : places.Lead settings project fs)
    (hp : places.Complies compile fs script)
    (hm : fs.item? places.definition = some (.file definition)) :
    places.Lead settings project (afterCompilers fs script) := by
  refine h.keep (keepsDirectories_afterCompilers fs script) fun location hl => ?_
  simp only [List.mem_cons, List.not_mem_nil, or_false] at hl
  obtain rfl | rfl | rfl := hl
  · rw [hp.item?_definition, hm]
    simp
  · rw [hp.item?_header hm]
    simp
  · rw [hp.item?_constants]
    exact h.constants.item_ne

/-! ## One build -/

/-- A build without a definition leaves all files as they are. -/
theorem Lead.build_of_no_definition (h : places.Lead settings project call.files)
    (hm : ∀ definition, call.files.item? places.definition ≠ some (.file definition)) :
    (call.build settings project).2.files = call.files := by
  cases hd : call.files.digest (project.inputPath settings.root) with
  | ok digest =>
      obtain ⟨bytes, hr, -⟩ := FileSystem.digest_eq_ok_iff.mp hd
      exact absurd (h.definition.read?_eq_some_iff.mp hr) (hm bytes)
  | error failure =>
      have hb : call.build settings project = _ := buildNative_of_digest_eq_error hd
      rw [hb]

/-- A build with a definition and with compilers that can be called returns. Unless the stamp was
there, it puts the constants of the compiled definition in their place. -/
theorem Lead.build_of_definition (h : places.Lead settings project call.files)
    (hcalls : CanCall .native settings project (project.resPath settings.root))
    (hp : places.Complies compile call.files call.script)
    (hm : call.files.item? places.definition = some (.file definition)) :
    ∃ report last, call.build settings project = (.ok report, last) ∧
      ((call.files.carries (nativeConstants settings project)
            (Digest.ofContent definition) = true ∧ last.files = call.files) ∨
        (call.files.carries (nativeConstants settings project)
            (Digest.ofContent definition) = false ∧ report.regenerated = true ∧
          last.files = (Job.afterCompilers call.files call.script).put places.constants
            (.file (ConstantsFile.bytes (Digest.ofContent definition)
              (Constant.ofHeader (compile definition)))))) := by
  have hd : call.files.digest (project.inputPath settings.root) =
      .ok (Digest.ofContent definition) :=
    FileSystem.digest_eq_ok_iff.mpr
      ⟨definition, h.definition.read?_eq_some_iff.mpr hm, rfl⟩
  cases hc : call.files.carries (nativeConstants settings project)
    (Digest.ofContent definition) with
  | true =>
      have hb : call.build settings project = _ := buildNative_of_carries hd hc
      exact ⟨_, _, hb, Or.inl ⟨rfl, rfl⟩⟩
  | false =>
      have h' := h.afterCompilers hp hm
      have hheader := FileSystem.content_eq_ok_iff.mpr
        ⟨h'.header.nul, h'.header.target, hp.item?_header hm⟩
      have ht : (Job.afterCompilers call.files call.script).translate
          (nativeHeader settings project) (nativeConstants settings project)
          (Digest.ofContent definition) = _ :=
        FileSystem.translate_of_target hheader h'.constants.nul h'.constants.target
          places.header_ne_constants
      obtain ⟨log, hb⟩ := @buildNative_of_not_carries
        { files := call.files, script := call.script } settings project _ hd hc hcalls
      rw [ht] at hb
      exact ⟨_, _, hb, Or.inr ⟨rfl, rfl, rfl⟩⟩

/-- A build keeps all places and the definition. -/
theorem Lead.build (h : places.Lead settings project call.files)
    (hp : places.Complies compile call.files call.script) :
    places.Lead settings project (call.build settings project).2.files ∧
      (call.build settings project).2.files.item? places.definition =
        call.files.item? places.definition := by
  by_cases hcalls : CanCall .native settings project (project.resPath settings.root)
  · by_cases hm : ∃ definition, call.files.item? places.definition = some (.file definition)
    · obtain ⟨definition, hm⟩ := hm
      obtain ⟨report, last, hb, ⟨-, hl⟩ | ⟨-, -, hl⟩⟩ := h.build_of_definition hcalls hp hm
      · rw [hb]
        dsimp only
        rw [hl]
        exact ⟨h, rfl⟩
      · have h' := h.afterCompilers hp hm
        rw [hb]
        dsimp only
        rw [hl]
        refine ⟨h'.put_file h'.constants.ne_root h'.constants.item_ne, ?_⟩
        rw [FileSystem.item?_put_of_ne _ _ places.definition_ne_constants, hp.item?_definition]
    · rw [h.build_of_no_definition (not_exists.mp hm)]
      exact ⟨h, rfl⟩
  · have hfiles : (call.build settings project).2.files = call.files :=
      files_buildNative_of_not_canCall hcalls
    rw [hfiles]
    exact ⟨h, rfl⟩

/-- What a build wrote, it wrote for the definition that it found. -/
theorem Lead.definition_of_wrote {report : Report} {header : List UInt8}
    (h : places.Lead settings project call.files)
    (hp : places.Complies compile call.files call.script)
    (hw : call.Wrote settings project report header fs) :
    ∃ definition, call.definition? settings project = some definition ∧
      report.digest = Digest.ofContent definition ∧ header = compile definition := by
  obtain ⟨definition, hr, hdigest⟩ :=
    FileSystem.digest_eq_ok_iff.mp (digest_of_buildNative (eq_of_fst_eq_ok hw.returned))
  have hm := h.definition.read?_eq_some_iff.mp hr
  have hheader := (h.afterCompilers hp hm).header.read?_eq_some_iff.mp hw.source
  rw [hp.item?_header hm, Option.some.injEq, Entry.file.injEq] at hheader
  exact ⟨definition, hr, hdigest, hheader.symm⟩

/-! ## Histories -/

/-- Between two builds the definition is overwritten, and the compilers comply. -/
def upkeep (places : Places) (settings : Settings) (project : Project)
    (compile : List UInt8 → List UInt8) : Conduct where
  changes fs later := ∃ bytes, later = (fs.store (project.inputPath settings.root) bytes).1
  performs := places.Complies compile

/-- Overwriting the definition keeps all places and the constants file. -/
theorem Lead.change (h : places.Lead settings project fs) (bytes : List UInt8) :
    places.Lead settings project (fs.store (project.inputPath settings.root) bytes).1 ∧
      (fs.store (project.inputPath settings.root) bytes).1.read?
          (nativeConstants settings project) =
        fs.read? (nativeConstants settings project) := by
  rw [h.store_definition]
  have h' : places.Lead settings project (fs.put places.definition (.file bytes)) :=
    h.put_file h.definition.ne_root h.definition.item_ne
  exact ⟨h', h.constants.read?_eq h'.constants
    (FileSystem.item?_put_of_ne fs _ places.definition_ne_constants.symm)⟩

/-- Upkeep keeps all places, and nobody but the builds writes the constants file. -/
theorem Lead.history {start : FileSystem} {calls : List Call}
    (hstart : places.Lead settings project start)
    (h : History settings project (places.upkeep settings project compile) start calls fs) :
    History settings project (.leaving (nativeConstants settings project)) start calls fs ∧
      places.Lead settings project fs ∧
      ∀ call ∈ calls, places.Lead settings project call.files ∧
        places.Complies compile call.files call.script := by
  refine h.imp hstart (fun fs later hl hc => ?_) fun fs script hl hp => ?_
  · obtain ⟨bytes, hlater⟩ := hc
    rw [hlater]
    exact hl.change bytes
  · obtain ⟨hb, -⟩ := @Lead.build places settings project compile ⟨fs, script⟩ hl hp
    exact ⟨hb, hp.read?_constants hl⟩

section Clean

variable {start : FileSystem} {calls : List Call} {current : Call} {report : Report} {last : Job}

/-- A build of a definition that finds no constants file writes one. -/
theorem Lead.clean_build (h : places.Lead settings project fs)
    (hcalls : CanCall .native settings project (project.resPath settings.root))
    (hm : fs.item? places.definition = some (.file definition))
    (hp : places.Complies compile (fs.erase places.constants) script) :
    ∃ report last, (Call.mk (fs.erase places.constants) script).build settings project =
        (.ok report, last) ∧ report.regenerated = true ∧
      last.files.read? (nativeConstants settings project) =
        some (ConstantsFile.bytes (Digest.ofContent definition)
          (Constant.ofHeader (compile definition))) := by
  have h' := h.erase_constants
  have hm' : (fs.erase places.constants).item? places.definition = some (.file definition) := by
    rw [FileSystem.item?_erase_of_ne fs places.definition_ne_constants, hm]
  have hnone : (fs.erase places.constants).read? (nativeConstants settings project) = none := by
    rw [Option.eq_none_iff_forall_ne_some]
    intro bytes hr
    rw [h'.constants.read?_eq_some_iff,
      FileSystem.item?_erase_self fs h.constants.ne_root] at hr
    cases hr
  obtain ⟨report, last, hb, ⟨hc, -⟩ | ⟨-, hregenerated, hl⟩⟩ :=
    @Lead.build_of_definition places settings project compile definition
      ⟨fs.erase places.constants, script⟩ h' hcalls hp hm'
  · rw [FileSystem.carries_of_read?_eq_none hnone] at hc
    cases hc
  · have hafter := h'.afterCompilers hp hm'
    refine ⟨report, last, hb, hregenerated, ?_⟩
    rw [hl]
    exact FileSystem.read?_put_file hafter.constants.nul hafter.constants.target

/-- A constants file that carries the digest of the current definition was made from it, if the
definitions of the history have different digests and none is spelled by another's constants. -/
theorem constants_of_carries
    (hcalls : ∀ call ∈ calls, places.Lead settings project call.files ∧
      places.Complies compile call.files call.script)
    (horigin : ∃ call ∈ calls, ∃ report header, call.Wrote settings project report header fs)
    (hc : fs.carries (nativeConstants settings project) (Digest.ofContent definition) = true)
    (hdigests : ∀ v ∈ calls.filterMap (·.definition? settings project),
      v ≠ definition → Digest.ofContent v ≠ Digest.ofContent definition)
    (hspells : ∀ v ∈ calls.filterMap (·.definition? settings project), v ≠ definition →
      ∀ c ∈ Constant.ofHeader (compile v), ¬ c.Spells (Digest.ofContent definition)) :
    fs.read? (nativeConstants settings project) =
      some (ConstantsFile.bytes (Digest.ofContent definition)
        (Constant.ofHeader (compile definition))) := by
  obtain ⟨call, hcall, earlier, header, hw⟩ := horigin
  obtain ⟨hl, hp⟩ := hcalls call hcall
  obtain ⟨v, hv, hdigest, rfl⟩ := hl.definition_of_wrote hp hw
  have hmem : v ∈ calls.filterMap (·.definition? settings project) :=
    List.mem_filterMap.mpr ⟨call, hcall, hv⟩
  obtain rfl : v = definition := by
    by_contra hne
    obtain he | ⟨c, hcm, hs⟩ := (hw.carries_iff (Digest.isDigest_ofContent definition)).mp hc
    · rw [hdigest] at he
      exact hdigests v hmem hne he.symm
    · exact hspells v hmem hne c hcm hs
  rw [← hdigest]
  exact hw.bytes

/-- **Incremental builds**: after any edits and builds, a build that returns leaves the constants of
the current definition under its digest. A build of the same files without the constants file, be it
those that the build found or those that it left, makes the same constants file. -/
theorem incremental_eq_clean (hplaces : places.Lead settings project start)
    (habsent : start.read? (project.constantsIn (project.resPath settings.root)) = none)
    (h : History settings project (places.upkeep settings project compile) start calls
      current.files)
    (hcomplies : places.Complies compile current.files current.script)
    (hbuild : current.build settings project = (.ok report, last))
    (hdigests : ∀ v ∈ (current :: calls).filterMap (·.definition? settings project),
      ∀ w ∈ (current :: calls).filterMap (·.definition? settings project),
        v ≠ w → Digest.ofContent v ≠ Digest.ofContent w)
    (hspells : ∀ v ∈ (current :: calls).filterMap (·.definition? settings project),
      ∀ w ∈ (current :: calls).filterMap (·.definition? settings project),
        v ≠ w → ∀ c ∈ Constant.ofHeader (compile v), ¬ c.Spells (Digest.ofContent w)) :
    ∃ definition, current.definition? settings project = some definition ∧
      last.files.read? (project.constantsIn (project.resPath settings.root)) =
        some (ConstantsFile.bytes (Digest.ofContent definition)
          (Constant.ofHeader (compile definition))) ∧
      ∀ files ∈ [current.files, last.files], ∀ script,
        places.Complies compile (files.erase places.constants) script →
        ∃ clean cleaned,
          (Call.mk (files.erase places.constants) script).build settings project =
            (.ok clean, cleaned) ∧
          clean.regenerated = true ∧
          cleaned.files.read? (project.constantsIn (project.resPath settings.root)) =
            last.files.read? (project.constantsIn (project.resPath settings.root)) := by
  obtain ⟨hleaving, hlead, hcalls⟩ := hplaces.history h
  have hcan := hleaving.canCall_of_returned habsent hbuild
  obtain ⟨definition, hr, -⟩ := FileSystem.digest_eq_ok_iff.mp (digest_of_buildNative hbuild)
  have hm := hlead.definition.read?_eq_some_iff.mp hr
  have hcurrent : ∀ v ∈ calls.filterMap (·.definition? settings project),
      v ∈ (current :: calls).filterMap (·.definition? settings project) := by
    intro v hv
    obtain ⟨call, hcall, hv⟩ := List.mem_filterMap.mp hv
    exact List.mem_filterMap.mpr ⟨call, List.mem_cons_of_mem _ hcall, hv⟩
  have hmem : definition ∈ (current :: calls).filterMap (·.definition? settings project) :=
    List.mem_filterMap.mpr ⟨current, List.mem_cons_self, hr⟩
  have hwritten : last.files.read? (nativeConstants settings project) =
      some (ConstantsFile.bytes (Digest.ofContent definition)
        (Constant.ofHeader (compile definition))) := by
    obtain ⟨other, after, hb, ⟨hc, hl⟩ | ⟨-, -, hl⟩⟩ := hlead.build_of_definition hcan hcomplies hm
    · -- the stamp was there, so an earlier build has written the file
      obtain ⟨-, rfl⟩ := Prod.mk.inj (hbuild.symm.trans hb)
      rw [hl]
      obtain hnone | horigin := hleaving.constants_eq habsent
      · rw [FileSystem.carries_of_read?_eq_none hnone] at hc
        cases hc
      · exact constants_of_carries hcalls horigin hc
          (fun v hv hne => hdigests v (hcurrent v hv) definition hmem hne)
          (fun v hv hne => hspells v (hcurrent v hv) definition hmem hne)
    · obtain ⟨-, rfl⟩ := Prod.mk.inj (hbuild.symm.trans hb)
      have hafter := hlead.afterCompilers hcomplies hm
      rw [hl]
      exact FileSystem.read?_put_file hafter.constants.nul hafter.constants.target
  refine ⟨definition, hr, hwritten, fun files hfiles script hclean => ?_⟩
  obtain ⟨hlast, hlastm⟩ := hlead.build hcomplies
  rw [hbuild] at hlast hlastm
  have hfiles : places.Lead settings project files ∧
      files.item? places.definition = some (.file definition) := by
    simp only [List.mem_cons, List.not_mem_nil, or_false] at hfiles
    obtain rfl | rfl := hfiles
    · exact ⟨hlead, hm⟩
    · exact ⟨hlast, hlastm.trans hm⟩
  obtain ⟨clean, cleaned, hb, hregenerated, hg⟩ := hfiles.1.clean_build hcan hfiles.2 hclean
  exact ⟨clean, cleaned, hb, hregenerated, hg.trans hwritten.symm⟩

/-- The places of the small project. -/
def smallPlaces : Places where
  definition := ["eventmsgs.mc", "res"]
  header := ["eventmsgs.h", "res"]
  constants := ["eventmsgs.rs", "res"]
  definition_ne_header := by decide
  definition_ne_constants := by decide
  header_ne_constants := by decide

/-- A build with a message compiler that copies a definition, which is a header already. -/
def copying (fs : FileSystem) (definition : String) : Call where
  files := fs
  script := [{ writes := [("res/eventmsgs.h", Text.Utf8.encode definition.toList)] }]

/-- The small project is built. -/
def firstCopy : Call := copying (smallTree "#define ALPHA 0x1") "#define ALPHA 0x1"

/-- Then its definition is overwritten, and it is built again. -/
def secondCopy : Call :=
  copying ((firstCopy.build windowsHost {}).2.files.store
    (({} : Project).inputPath windowsHost.root)
    (Text.Utf8.encode "#define BETA 0x2".toList)).1 "#define BETA 0x2"

theorem lead_firstCopy : smallPlaces.Lead windowsHost {} firstCopy.files where
  definition := FileSystem.leadsTo_of_toOption (by decide +kernel) (by decide +kernel)
  header := FileSystem.leadsTo_of_toOption (by decide +kernel) (by decide +kernel)
  constants := FileSystem.leadsTo_of_toOption (by decide +kernel) (by decide +kernel)

theorem Complies.of_item? (definition : List UInt8)
    (h : fs.item? places.definition = some (.file definition) ∧
      (Job.afterMessages fs script).item? places.header = some (.file (compile definition)) ∧
      (Job.afterMessages fs script).item? places.definition = fs.item? places.definition ∧
      (Job.afterMessages fs script).item? places.constants = fs.item? places.constants ∧
      ∀ location ∈ [places.definition, places.header, places.constants],
        (Job.afterCompilers fs script).item? location =
          (Job.afterMessages fs script).item? location) : places.Complies compile fs script := by
  obtain ⟨hm, hh, hd, hg, hr⟩ := h
  refine ⟨fun v hv => ?_, hd, hg, hr⟩
  rw [hm, Option.some.injEq, Entry.file.injEq] at hv
  rw [← hv]
  exact hh

theorem complies_firstCopy : smallPlaces.Complies id firstCopy.files firstCopy.script :=
  .of_item? (Text.Utf8.encode "#define ALPHA 0x1".toList) (by decide +kernel)

theorem complies_secondCopy : smallPlaces.Complies id secondCopy.files secondCopy.script :=
  .of_item? (Text.Utf8.encode "#define BETA 0x2".toList) (by decide +kernel)

theorem history_secondCopy : History windowsHost {}
    (smallPlaces.upkeep windowsHost {} id) firstCopy.files [firstCopy] secondCopy.files := by
  have hfirst : History windowsHost {} (smallPlaces.upkeep windowsHost {} id) firstCopy.files
      [firstCopy] (firstCopy.build windowsHost {}).2.files := .single firstCopy complies_firstCopy
  unfold secondCopy copying
  dsimp only
  exact hfirst.change ⟨_, rfl⟩

theorem definition?_secondCopy : secondCopy.definition? windowsHost {} =
    some (Text.Utf8.encode "#define BETA 0x2".toList) := by
  have hfirst := (lead_firstCopy.build complies_firstCopy).1
  unfold secondCopy copying
  rw [Call.definition?, hfirst.store_definition]
  exact FileSystem.read?_put_file hfirst.definition.nul hfirst.definition.target

theorem definitions_secondCopy :
    (secondCopy :: [firstCopy]).filterMap (·.definition? windowsHost {}) =
      [Text.Utf8.encode "#define BETA 0x2".toList,
        Text.Utf8.encode "#define ALPHA 0x1".toList] := by
  have hfirst : firstCopy.definition? windowsHost {} =
      some (Text.Utf8.encode "#define ALPHA 0x1".toList) := by decide +kernel
  simp only [List.filterMap_cons, List.filterMap_nil, definition?_secondCopy, hfirst]

/-- The small project is built, edited and built again. -/
theorem incremental_eq_clean_secondCopy : ∃ report last,
    secondCopy.build windowsHost {} = (.ok report, last) ∧
      last.files.read? "res/eventmsgs.rs" =
        some (ConstantsFile.bytes
          (Digest.ofContent (Text.Utf8.encode "#define BETA 0x2".toList))
          (Constant.ofHeader (Text.Utf8.encode "#define BETA 0x2".toList))) := by
  have habsent : firstCopy.files.read? "res/eventmsgs.rs" = none := by decide +kernel
  have hdigests : ∀ v ∈ [Text.Utf8.encode "#define BETA 0x2".toList,
      Text.Utf8.encode "#define ALPHA 0x1".toList],
      ∀ w ∈ [Text.Utf8.encode "#define BETA 0x2".toList,
        Text.Utf8.encode "#define ALPHA 0x1".toList],
        v ≠ w → Digest.ofContent v ≠ Digest.ofContent w := by decide +kernel
  have hshort : ∀ v ∈ [Text.Utf8.encode "#define BETA 0x2".toList,
      Text.Utf8.encode "#define ALPHA 0x1".toList], ∀ c ∈ Constant.ofHeader v,
        c.name.toList.length < 64 ∧ c.value.toList.length < 64 := by decide +kernel
  rw [← definitions_secondCopy] at hdigests hshort
  obtain ⟨-, hlead, -⟩ := lead_firstCopy.history history_secondCopy
  have hm := hlead.definition.read?_eq_some_iff.mp definition?_secondCopy
  obtain ⟨report, last, hbuild, -⟩ :=
    hlead.build_of_definition (by decide +kernel) complies_secondCopy hm
  obtain ⟨definition, hd, hg, -⟩ := incremental_eq_clean lead_firstCopy habsent
    history_secondCopy complies_secondCopy hbuild hdigests
    fun v hv w _ _ c hc => Constant.not_spells_of_length (Digest.isDigest_ofContent w)
      (hshort v hv c hc).1 (hshort v hv c hc).2
  obtain rfl := Option.some.inj (hd.symm.trans definition?_secondCopy)
  exact ⟨report, last, hbuild, hg⟩

end Clean

end Places

end EventMessages
