import IdlScout.Proofs.Emission.Sparing

/-! Receivers that may not touch what is there: whatever they are told, every entry that was there
before them stays as it was, and the files that they wrote themselves can be written again. -/

namespace IdlScout
namespace Emitter

open Target (Spares Untouched)

variable {options : OutputOptions} {start : FileTree} {emitter : Emitter} {world : World}

/-- What a receiver does leaves alone what was there, keeps all claims, and prints interface text as
before. -/
structure Advances (options : OutputOptions) (start : FileTree) (emitter : Emitter)
    (result : Except OutputFault Unit × Emitter × World) : Prop where
  spares : Spares options start result.2.1.target result.2.2.tree
  claims : emitter.target.claimed ⊆ result.2.1.target.claimed
  kind : ∀ layout clean, result.2.1.kind = .idl layout clean ↔ emitter.kind = .idl layout clean

/-- A step of the output is a step of the receiver. -/
theorem Advances.onTarget {step : Act Target OutputFault Unit}
    (advances : Target.Advances options start emitter.target (step (emitter.target, world))) :
    Advances options start emitter (onTarget step (emitter, world)) :=
  ⟨advances.spares, advances.claims, fun _ _ => .rfl⟩

/-- A receiver that does nothing leaves everything alone. -/
theorem Advances.refl (spares : Spares options start emitter.target world.tree) :
    Advances options start emitter (.ok (), emitter, world) :=
  ⟨spares, List.Subset.refl _, fun _ _ => .rfl⟩

/-- Steps that leave alone what was there can follow each other. -/
theorem Advances.trans {middle last : Except OutputFault Unit × Emitter × World}
    (first : Advances options start emitter middle)
    (second : Advances options start middle.2.1 last) : Advances options start emitter last :=
  ⟨second.spares, List.Subset.trans first.claims second.claims, fun layout clean =>
    (second.kind layout clean).trans (first.kind layout clean)⟩

/-- A step that leaves alone what was there is followed by others only if it does not fail. -/
theorem Advances.bind {act : Act Emitter OutputFault Unit}
    {next : Unit → Act Emitter OutputFault Unit}
    (first : Advances options start emitter (act (emitter, world)))
    (second : ∀ later after, Spares options start later.target after.tree →
      Advances options start later (next () (later, after))) :
    Advances options start emitter ((act >>= next) (emitter, world)) := by
  rw [Act.bind_apply]
  generalize act (emitter, world) = middle at first
  rcases middle with ⟨fault | _, later, after⟩
  -- What follows a fault is not done.
  · exact first
  · exact first.trans (second later after first.spares)

/-- A type is written with the others, or to a file of its own. -/
theorem writeType_apply (layout : Layout) (clean : Bool) (detected : DetectedType) (target : Target)
    (world : World) :
    let text := typeText layout clean target.options detected
    writeType layout clean detected (target, world) =
      if target.options.split then
        match Target.writeFile (fileName target.options detected) text (target, world) with
        | (.error fault, after) => (.error fault, after)
        | (.ok _, after) => (.ok (), after)
      else Target.write text (target, world) := by
  intro text
  unfold writeType
  rw [Act.bind_of_ok (Act.own_apply _)]
  dsimp only
  -- Only a split output has a file for the type; any other writes to the one that is open.
  split
  · rw [Act.bind_apply]
    rcases Target.writeFile (fileName target.options detected) text (target, world) with
      ⟨fault | path, after⟩ <;> rfl
  · rfl

/-- A type that is refused is not written, and nothing else is. -/
theorem writeType_untouched (layout : Layout) (clean : Bool) (detected : DetectedType)
    (target : Target) (world : World) :
    Untouched world.tree (writeType layout clean detected (target, world)) := by
  rw [writeType_apply]
  split
  · -- The only file that can be refused is that of the type.
    have untouched := Target.writeFile_untouched (fileName target.options detected)
      (typeText layout clean target.options detected) target world
    generalize Target.writeFile _ _ (target, world) = result at untouched
    rcases result with ⟨fault | path, opened, after⟩
    · exact untouched.passOn opened
    · exact nofun
  · exact Target.untouched_of_ok () (Target.write_ok ..)

/-- When a receiver answers that something is there already, it has changed nothing. -/
theorem react_untouched (notice : Notice) (emitter : Emitter) (world : World) :
    Untouched world.tree (react notice (emitter, world)) := by
  obtain ⟨kind, target⟩ := emitter
  have writes (text : Text) : Untouched world.tree
      (onTarget (Target.write text) (⟨kind, target⟩, world)) :=
    Target.untouched_of_ok () (Target.write_ok text target world)
  unfold react
  rw [Act.bind_of_ok (Act.own_apply _)]
  -- Only an output that is opened and a type with a file of its own can be refused.
  cases notice with
  | opened => cases kind <;> exact Target.start_untouched target world
  | type detected =>
    cases kind with
    | idl layout clean => exact writeType_untouched layout clean detected target world
    | list topicsOnly =>
      cases topicsOnly with
      | true => exact nofun
      | false => exact writes _
    | topics format sofar => exact nofun
  | topic detected =>
    cases kind with
    | idl | list => exact writes _
    | topics format sofar => exact nofun
  | closed types topics =>
    cases kind with
    | idl | list => exact nofun
    | topics format sofar =>
      -- The map is always written, and the file is then released.
      have wrote : (onTarget (Target.write (sofar.print format))
          (⟨.topics format sofar, target⟩, world)).1 = .ok () := Target.write_ok ..
      refine Target.untouched_of_ok () ?_
      dsimp only
      rw [Act.bind_apply]
      generalize onTarget (Target.write (sofar.print format)) _ = result at wrote
      rcases result with ⟨fault | _, after⟩
      · cases wrote
      · rfl

/-- Notices that come in two parts are answered one part after the other. -/
theorem reactions_append (before after : List Notice) (state : Emitter × World) :
    (reactions (before ++ after) state).2 = (reactions after (reactions before state).2).2 := by
  induction before generalizing state with
  | nil => rfl
  | cons notice rest ih => exact ih (react notice state).2

/-- A receiver that has no files for types does not fail on one. -/
theorem react_type_ok {kind : EmitterKind} {target : Target}
    (noFiles : ∀ layout clean, kind = .idl layout clean → target.options.split = false)
    (detected : DetectedType) (world : World) :
    (react (.type detected) (⟨kind, target⟩, world)).1 = .ok () := by
  -- Of the three kinds only the first writes files, and here it writes none.
  cases kind with
  | idl layout clean =>
    show (writeType layout clean detected (target, world)).1 = .ok ()
    rw [writeType_apply, if_neg (by simp [noFiles layout clean rfl])]
    exact Target.write_ok ..
  | list topicsOnly =>
    cases topicsOnly with
    | true => rfl
    | false => exact Target.write_ok detected.fullName target world
  | topics format sofar => rfl

section

variable (sparing : options.IsSparing) (level : start.IsLevel)
  (spelled : FileTree.IsSpelled start.home)

include sparing level spelled

/-- A type is written without touching what is there. -/
theorem writeType_advances {target : Target}
    (spares : Spares options start target world.tree) {detected : DetectedType}
    (admits : Admits options start detected) (layout : Layout) (clean : Bool) :
    Target.Advances options start target (writeType layout clean detected (target, world)) := by
  obtain rfl := spares.chosen
  rw [writeType_apply]
  -- A whole output never opens a file for a type.
  cases split : target.options.split with
  | false => exact spares.write _
  | true =>
    rw [if_pos rfl]
    have files := spares.writeFile sparing level spelled split admits
      (typeText layout clean target.options detected)
    generalize Target.writeFile _ _ (target, world) = result at files
    cases files with
    | refused _ same => exact .unchanged spares same
    | failed later | wrote later => exact .claimed later

/-- Whatever a receiver is told, it does not touch what is there. -/
theorem react_advances
    (spares : Spares options start emitter.target world.tree) (notice : Notice)
    (admits : ∀ detected, notice = .type detected → Admits options start detected) :
    Advances options start emitter (react notice (emitter, world)) := by
  obtain ⟨kind, target⟩ := emitter
  unfold react
  rw [Act.bind_of_ok (Act.own_apply _)]
  -- What each notice does to the target is one of the steps whose advance is known.
  cases notice with
  | opened => cases kind <;> exact .onTarget (spares.opening sparing level spelled)
  | type detected =>
    cases kind with
    | idl layout clean =>
      exact .onTarget (writeType_advances sparing level spelled spares (admits detected rfl) _ _)
    | list topicsOnly =>
      cases topicsOnly with
      | true => exact .refl spares
      | false => exact .onTarget (spares.write _)
    | topics format sofar => exact .refl spares
  | topic detected =>
    cases kind with
    | idl | list => exact .onTarget (spares.write _)
    | topics format sofar => exact ⟨spares, List.Subset.refl _, fun _ _ => ⟨nofun, nofun⟩⟩
  | closed types topics =>
    cases kind with
    | idl | list => exact .onTarget spares.finish
    | topics format sofar =>
      exact .bind (.onTarget (spares.write _)) fun _ _ later => .onTarget later.finish

/-- Whatever a sparing receiver is told, it does not touch what was there at the start. -/
theorem reactions_advance
    (spares : Spares options start emitter.target world.tree) (notices : List Notice)
    (admits : ∀ detected, .type detected ∈ notices → Admits options start detected) :
    Advances options start emitter (.ok (), (reactions notices (emitter, world)).2) := by
  -- One step keeps everything that the next one asks for.
  induction notices generalizing emitter world with
  | nil => exact .refl spares
  | cons notice rest ih =>
    have first := react_advances sparing level spelled spares notice fun detected same =>
      admits detected (by simp [same])
    exact first.trans (ih first.spares fun detected member => admits detected (.tail _ member))

/-- A file that the output has claimed is written again, unless its path cannot be used. -/
theorem writeType_of_claimed (split : options.split = true) {target : Target}
    (spares : Spares options start target world.tree) {detected : DetectedType}
    (admits : Admits options start detected) (layout : Layout) (clean : Bool)
    (claimed : target.filePath world.tree detected ∈ target.claimed) :
    let result := writeType layout clean detected (target, world)
    (∀ isFolder path, result.1 ≠ .error (.taken isFolder path)) ∧
      (result.1 = .ok () → result.2.2.tree.read (target.filePath world.tree detected) =
        .ok (Utf8.encode (typeText layout clean options detected))) := by
  obtain rfl := spares.chosen
  intro result
  have written : result = _ := writeType_apply layout clean detected target world
  rw [split, if_pos rfl] at written
  have files := spares.writeFile sparing level spelled split admits
    (typeText layout clean target.options detected)
  generalize Target.writeFile _ _ (target, world) = wrote at files written
  cases files with
  | refused there _ =>
    -- A path is never refused if it was claimed.
    have own := Target.hasClaimed_iff.mpr ⟨_, claimed, Path.same_self _⟩
    simp [Target.refuses, own] at there
  -- Another fault is no refusal, and a fault leaves nothing to say of the file.
  | failed _ =>
    rw [written]
    exact ⟨nofun, nofun⟩
  | wrote _ reads =>
    rw [written]
    exact ⟨nofun, fun _ => reads⟩

/-- The file of a type that was written without a fault is claimed. -/
theorem claimed_of_writeType (split : options.split = true) {target : Target}
    (spares : Spares options start target world.tree) {detected : DetectedType}
    (admits : Admits options start detected) {layout : Layout} {clean : Bool}
    (ok : (writeType layout clean detected (target, world)).1 = .ok ()) :
    target.filePath world.tree detected ∈
      (writeType layout clean detected (target, world)).2.1.claimed := by
  obtain rfl := spares.chosen
  rw [writeType_apply, split, if_pos rfl] at ok ⊢
  have files := spares.writeFile sparing level spelled split admits
    (typeText layout clean target.options detected)
  generalize Target.writeFile _ _ (target, world) = wrote at files ok
  -- If the file had been refused, or had failed, the answer would be that fault.
  cases files with
  | refused | failed => cases ok
  | wrote => exact List.mem_cons_self

/-- A type whose file was written before, at the path that it is written to now, is not refused, and
the file holds its text afterwards unless its path cannot be used. -/
theorem react_type_again (spares : Spares options start emitter.target world.tree)
    {detected again : DetectedType} (admits : Admits options start detected)
    (admitsAgain : Admits options start again)
    (ok : (react (.type detected) (emitter, world)).1 = .ok ()) {later : Emitter} {after : World}
    (advances : Advances options start (react (.type detected) (emitter, world)).2.1
      (.ok (), later, after))
    (samePath : later.target.filePath after.tree again =
      emitter.target.filePath world.tree detected) :
    let result := react (.type again) (later, after)
    (∀ isFolder path, result.1 ≠ .error (.taken isFolder path)) ∧
      (result.1 = .ok () → ∀ layout clean, later.kind = .idl layout clean → options.split = true →
        result.2.2.tree.read (later.target.filePath after.tree again) =
          .ok (Utf8.encode (typeText layout clean options again))) := by
  obtain ⟨kind, target⟩ := later
  by_cases files : ∃ layout clean, kind = .idl layout clean ∧ options.split = true
  · obtain ⟨layout, clean, rfl, split⟩ := files
    have first := react_advances sparing level spelled spares (.type detected) fun other same =>
      (Notice.type.inj same) ▸ admits
    obtain ⟨earlierKind, own⟩ := emitter
    obtain rfl : earlierKind = .idl layout clean :=
      (first.kind layout clean).mp ((advances.kind layout clean).mp rfl)
    -- The file was claimed when it was written, and no claim is lost.
    have claimed := advances.claims
      (claimed_of_writeType sparing level spelled split spares admits ok)
    rw [← samePath] at claimed
    obtain ⟨notTaken, reads⟩ := writeType_of_claimed sparing level spelled split advances.spares
      admitsAgain layout clean claimed
    refine ⟨notTaken, fun done otherLayout otherClean same _ => ?_⟩
    cases same
    exact reads done
  · -- Without files of types there is nothing to refuse.
    have fine : (react (.type again) (⟨kind, target⟩, after)).1 = .ok () := by
      refine react_type_ok (fun layout clean same => ?_) again after
      rw [advances.spares.chosen]
      exact Bool.eq_false_iff.mpr fun split => files ⟨layout, clean, same, split⟩
    refine ⟨fun isFolder path taken => ?_, fun _ layout clean same split => ?_⟩
    · rw [fine] at taken
      cases taken
    · exact absurd ⟨layout, clean, same, split⟩ files

end

/-- A receiver with sparing options whose types have proper names, none of which names the output's
own path, leaves every entry that was there as it was, whatever it is told and whatever fails. When
it answers that something is there already, nothing at all has changed. A type whose file it wrote
itself, and still writes to the same path, is never refused so: unless the path cannot be used, the
file holds the new text afterwards. -/
theorem sparing_keeps_found (kind : EmitterKind) (options : OutputOptions) (world : World)
    (sparing : options.IsSparing) (level : world.tree.IsLevel)
    (spelled : FileTree.IsSpelled world.tree.home) (notices : List Notice)
    (admits : ∀ detected, .type detected ∈ notices → Admits options world.tree detected) :
    let first : Emitter × World := (⟨kind, { options }⟩, world)
    let state := (reactions notices first).2
    (∀ place entry, world.tree.entry? place = some entry →
        state.2.tree.entry? place = some entry) ∧
      (∀ notice isFolder path, (react notice state).1 = .error (.taken isFolder path) →
        (react notice state).2.2.tree = state.2.tree) ∧
      ∀ before detected between, notices = before ++ .type detected :: between →
        let earlier := (reactions before first).2
        (react (.type detected) earlier).1 = .ok () →
        ∀ again : DetectedType, again.fullName = detected.fullName →
          let path := state.1.target.filePath state.2.tree again
          path = earlier.1.target.filePath earlier.2.tree detected →
          (∀ isFolder path, (react (.type again) state).1 ≠ .error (.taken isFolder path)) ∧
            ((react (.type again) state).1 = .ok () → ∀ layout clean, kind = .idl layout clean →
              options.split = true → (react (.type again) state).2.2.tree.read path =
                .ok (Utf8.encode (typeText layout clean options again))) := by
  intro first state
  have initial : Spares options world.tree first.1.target first.2.tree :=
    .initial options world.tree
  have advances := reactions_advance sparing level spelled initial notices admits
  -- Nothing was touched before the notice, and the state that the notices lead to is spared.
  refine ⟨fun place entry => advances.spares.grown.kept,
    fun notice => react_untouched notice state.1 state.2, ?_⟩
  intro before detected between whole earlier ok again sameName path samePath
  subst whole
  have earlierAdvances := reactions_advance sparing level spelled initial before fun other member =>
    admits other (List.mem_append_left _ member)
  have admitted := admits detected (by simp)
  have admittedAgain : Admits options world.tree again := by
    obtain ⟨proper, apart⟩ := admitted
    have sameFile : fileName options again = fileName options detected := by
      rw [fileName, fileName, DetectedType.path, DetectedType.path, sameName]
    exact ⟨sameName ▸ proper, sameFile ▸ apart⟩
  -- Between the two detections of the type no claim is lost.
  have wrote := react_advances sparing level spelled earlierAdvances.spares (.type detected)
    fun other same => (Notice.type.inj same) ▸ admitted
  have onward :
      Advances options world.tree (react (.type detected) earlier).2.1 (.ok (), state) := by
    have later := reactions_advance sparing level spelled wrote.spares between
      fun other member => admits other (by simp [member])
    have split : state = (reactions between (react (.type detected) earlier).2).2 :=
      reactions_append before (.type detected :: between) first
    rw [split]
    exact later
  obtain ⟨notTaken, reads⟩ := react_type_again sparing level spelled earlierAdvances.spares admitted
    admittedAgain ok onward samePath
  exact ⟨notTaken, fun done layout clean same => reads done layout clean
    ((advances.kind layout clean).mpr same)⟩

/-- A file that was there is kept though a type is detected for it, and a type that was written is
written again. -/
theorem sparing_keeps_found_file :
    let options : OutputOptions := { path := some "out".toList, append := true, split := true }
    let found : Location := [['h'], "out".toList, "a.idl".toList]
    let world : World := { tree := ⟨[([['h']], .folder), ([['h'], "out".toList], .folder),
      (found, .file [1, 2] false)], [['h']]⟩ }
    let present : DetectedType := ⟨['a'], "new".toList, none⟩
    let old : DetectedType := ⟨['b'], "old".toList, none⟩
    let again : DetectedType := ⟨['b'], "again".toList, none⟩
    ∃ emitter after,
      (reactions [.opened, .type present, .type old] (⟨.idl {} false, { options }⟩, world)).2 =
        (emitter, after) ∧
      after.tree.entry? found = some (.file [1, 2] false) ∧
      (react (.type present) (emitter, after)).1 = .error (.taken false "out/a.idl".toList) ∧
      (react (.type present) (emitter, after)).2.2.tree = after.tree ∧
      (react (.type again) (emitter, after)).1 = .ok () ∧
      (react (.type again) (emitter, after)).2.2.tree.read "out/b.idl".toList =
        .ok (Utf8.encode "again".toList) := by
  intro options found world present old again
  have given : options.path = some "out".toList := rfl
  have sparing : options.IsSparing := ⟨rfl, .inr rfl, fun path same => by
    obtain rfl := Option.some.inj (given.symm.trans same)
    decide⟩
  have plain : ∀ listed ∈ world.tree.entries,
      listed.2 = .folder ∨ listed.2 = .file [1, 2] false := by decide
  have level : world.tree.IsLevel := .of_entries (by decide) fun listed member target => by
    rcases plain listed member with folder | file
    · simp [folder]
    · simp [file]
  have spelled : FileTree.IsSpelled world.tree.home := ⟨fun name member => by
    obtain rfl : name = ['h'] := by simpa [world] using member
    exact ⟨⟨by decide, by decide⟩, by decide, by decide⟩⟩
  have admits : ∀ detected, Notice.type detected ∈ [.opened, .type present, .type old] →
      Admits options world.tree detected := by
    intro detected listed
    have named : detected = present ∨ detected = old := by simpa using listed
    rcases named with rfl | rfl
    · exact .of_path ⟨[['a']], by decide, by decide, rfl⟩ given (by decide)
    · exact .of_path ⟨[['b']], by decide, by decide, rfl⟩ given (by decide)
  obtain ⟨kept, untouched, rewrites⟩ := sparing_keeps_found (.idl {} false) options world sparing
    level spelled [.opened, .type present, .type old] admits
  replace rewrites := rewrites [.opened, .type present] old [] rfl
  -- From here on only what the two states were found to do is used, not how they came about.
  obtain ⟨state, reached⟩ : ∃ state, state =
      (reactions [.opened, .type present, .type old] (⟨.idl {} false, { options }⟩, world)).2 :=
    ⟨_, rfl⟩
  obtain ⟨earlier, before⟩ : ∃ earlier, earlier =
      (reactions [.opened, .type present] (⟨.idl {} false, { options }⟩, world)).2 := ⟨_, rfl⟩
  have runs : (react (.type present) state).1 = .error (.taken false "out/a.idl".toList) ∧
      (react (.type old) earlier).1 = .ok () ∧ (react (.type again) state).1 = .ok () ∧
      state.1.target.filePath state.2.tree again = "out/b.idl".toList ∧
      earlier.1.target.filePath earlier.2.tree old = "out/b.idl".toList := by
    rw [reached, before]
    decide +kernel
  obtain ⟨refused, wrote, rewrote, path, earlierPath⟩ := runs
  simp only [← reached, ← before] at kept untouched rewrites
  have reads := (rewrites wrote again rfl (path.trans earlierPath.symm)).2 rewrote {} false rfl rfl
  rw [path] at reads
  exact ⟨state.1, state.2, reached.symm, kept found _ rfl, refused, untouched _ _ _ refused,
    rewrote, reads⟩

/-- A type is refused though its file was written by the same receiver: it was written before the
output was opened, and the path that leads to it from the opened folder is spelled otherwise. -/
theorem split_refuses_own_file :
    let options : OutputOptions := { path := some ".".toList, append := true, split := true }
    let world : World := { tree := ⟨[([['h']], .folder)], [['h']]⟩ }
    let one : DetectedType := ⟨['a'], "one".toList, none⟩
    let two : DetectedType := ⟨['a'], "two".toList, none⟩
    let last := reactions [.type one, .opened, .type two] (⟨.idl {} false, { options }⟩, world)
    last.1 = [.ok (), .ok (), .error (.taken false "./a.idl".toList)] ∧
      last.2.2.tree.entries = [([['h']], .folder),
        ([['h'], "a.idl".toList], .file (Utf8.encode "one".toList) false)] := by
  decide +kernel

/-- A file that was there is lost where a type names the output's own path: that path was claimed as
a folder, which could not be made there. -/
theorem split_overwrites_found_file :
    let options : OutputOptions := { path := some "/h/x.idl/".toList, split := true }
    let found : Location := [['h'], "x.idl".toList]
    let world : World := { tree := ⟨[([['h']], .folder), (found, .file [1, 2] false)], [['h']]⟩ }
    let detected : DetectedType := ⟨['x'], "text".toList, none⟩
    let last := reactions [.opened, .type detected] (⟨.idl {} false, { options }⟩, world)
    last.1 = [.error (.unusable .taken), .ok ()] ∧
      last.2.2.tree.entry? found = some (.file (Utf8.encode "text".toList) false) := by
  decide +kernel

end Emitter
end IdlScout
