import IdlScout.Detection.Topic
import IdlScout.Proofs.Detection.Reload
import IdlScout.Proofs.Idl.InclusionLine
import IdlScout.Proofs.Idl.Verdict

/-! What holds of every detected type, whatever texts it was made from: its names, members,
annotations and references have the form that printing and naming files rely on. -/

namespace IdlScout

namespace Declaration

/-- What is left of a name without its base clause starts it. -/
theorem stripBase_isPrefix (declared : Text) : stripBase declared <+: declared := by
  have named := (isNamed_beforeLoneColon declared).isPrefix
  unfold stripBase
  -- Without a lone colon the name is left whole; with one it is cut and trimmed.
  cases found : beforeLoneColon declared with
  | none => exact List.prefix_rfl
  | some name =>
    rw [found] at named
    exact (Text.trimEnd_isPrefix name).trans named

/-- The modules and the name that are read have no blanks at their ends, and the body does not start
inside them. -/
theorem segment_of_read {text part : Text} {declaration : Declaration}
    (found : read text = .ok declaration)
    (listed : part ∈ declaration.modules ++ [declaration.name]) : IsTrimmed part ∧ '{' ∉ part := by
  obtain ⟨_, _, head, _, _, _, -, broken, -, -, parts, -⟩ := parts_of_read found
  rw [parts] at listed
  obtain ⟨segment, inHead, rfl⟩ := List.mem_map.mp listed
  refine ⟨Text.isTrimmed_trim segment, fun brace => (Text.of_breakAt? broken).1 ?_⟩
  -- All that is done to the header is leaving something out of it.
  have inName : '{' ∈ stripBase (Text.trim head) := by
    rw [← ScopedName.ofSegments_segments (stripBase (Text.trim head))]
    exact Text.mem_join_of_mem inHead (Text.mem_of_mem_trim brace)
  exact Text.mem_of_mem_trim ((stripBase_isPrefix _).subset inName)

/-- A reference is a scoped name, and so not empty. -/
theorem ne_nil_of_mem_references {declaration : Declaration} {reference : Text}
    (listed : reference ∈ declaration.references) : reference ≠ [] := by
  -- Only a name with a separator is referred to.
  obtain ⟨member, -, referred⟩ := List.mem_filterMap.mp listed
  unfold Member.reference? at referred
  dsimp only at referred
  split at referred
  · rename_i qualified
    obtain rfl := Option.some.inj referred
    rintro empty
    rw [empty] at qualified
    cases qualified
  · cases referred

end Declaration

namespace DetectedType

/-- The types that there are: detected from a name and a text, from a record, or from JSON, alone or
as the type of a topic. -/
inductive IsBuilt : DetectedType → Prop
  | detected {fullName idl : Text} {type : DetectedType}
    (found : detect fullName idl = .ok type) : IsBuilt type
  | recorded {contents : Json.Contents} {type : DetectedType}
    (found : detect (contents.text "fqname".toList) (contents.text "idl".toList) = .ok type) :
    IsBuilt type
  | loaded {text : Text} {type : DetectedType} (found : ofJson text = .ok type) : IsBuilt type
  | ofTopic {name typeName idl : Text} {topic : DetectedTopic}
    (found : DetectedTopic.detect name typeName idl = .ok topic) : IsBuilt topic.type
  | ofLoadedTopic {text : Text} {topic : DetectedTopic}
    (found : DetectedTopic.ofJson text = .ok topic) : IsBuilt topic.type

/-- The form of a type. -/
structure WellFormed (type : DetectedType) : Prop where
  /-- Its name and its text decide whether it is understood. -/
  understood : type.isParsed = true ↔
    Declaration.Declares (Declaration.dropUnbounded type.idl) type.fullName
  named : type.isParsed = true →
    ScopedName.ofSegments (type.modules ++ [type.name]) = type.fullName
  segments : type.isParsed = true →
    ∀ part ∈ type.modules ++ [type.name], IsTrimmed part ∧ '{' ∉ part
  members : ∀ member ∈ type.members,
    member ≠ [] ∧ IsTrimmed member ∧ ';' ∉ member ∧ '\n' ∉ member
  annotations : ∀ annotation ∈ type.annotations,
    annotation ≠ [] ∧ IsTrimmed annotation ∧ '@' ∉ annotation ∧ '\n' ∉ annotation
  references : ∀ reference ∈ type.references, reference ≠ [] ∧ '\n' ∉ reference
  passedOn : type.isParsed = false → type.name = type.fullName ∧ type.modules = [] ∧
    type.members = [] ∧ type.annotations = [] ∧ type.references = []

/-- The type of a topic is detected like any other. -/
theorem detect_of_topic {name typeName idl : Text} {topic : DetectedTopic}
    (found : DetectedTopic.detect name typeName idl = .ok topic) :
    detect typeName idl = .ok topic.type := by
  unfold DetectedTopic.detect at found
  cases detected : detect typeName idl with
  | error => simp [detected, Except.map] at found
  | ok type =>
    obtain rfl : (⟨name, type⟩ : DetectedTopic) = topic := by
      simpa [detected, Except.map] using found
    rfl

/-- However a type is built, it is detected from some name and text. -/
theorem IsBuilt.detect {type : DetectedType} (built : IsBuilt type) :
    ∃ fullName idl, DetectedType.detect fullName idl = .ok type := by
  -- Whichever way a type comes about, the last step is the detection.
  cases built with
  | detected found => exact ⟨_, _, found⟩
  | recorded found => exact ⟨_, _, found⟩
  | loaded found =>
    unfold ofJson at found
    split at found
    · cases found
    · exact ⟨_, _, found⟩
  | ofTopic found => exact ⟨_, _, detect_of_topic found⟩
  | ofLoadedTopic found =>
    unfold DetectedTopic.ofJson at found
    split at found
    · cases found
    · exact ⟨_, _, detect_of_topic found⟩

/-- A type is understood exactly if its text declares its name. -/
theorem isParsed_iff_declares {fullName idl : Text} {type : DetectedType}
    (found : DetectedType.detect fullName idl = .ok type) : type.isParsed = true ↔
      Declaration.Declares (Declaration.dropUnbounded idl) fullName := by
  obtain ⟨verdict, given⟩ := Declaration.exists_verdict (Declaration.dropUnbounded idl)
  constructor
  · intro parsed
    obtain ⟨declaration, read, present⟩ := read_of_detect found parsed
    -- Reading comes to the verdict, which is for the name that the type has.
    have same := given.read
    rw [read, Except.map, fullName_of_detect found present, (detect_keeps found).1] at same
    subst same
    cases given
    assumption
  · intro declares
    -- The verdict for the text is that it declares the name, and that is what is read.
    rcases detect_of_ok fullName (Declaration.Verdict.declared declares).read with
      ⟨-, declaration, again⟩ | ⟨differs, -⟩
    · obtain rfl := Except.ok.inj (found.symm.trans again)
      rfl
    · exact absurd rfl differs

/-- A detected type has its form. -/
theorem wellFormed_of_detect {fullName idl : Text} {type : DetectedType}
    (found : DetectedType.detect fullName idl = .ok type) : WellFormed type := by
  obtain ⟨sameName, sameText⟩ := detect_keeps found
  have understood := isParsed_iff_declares found
  rw [← sameName, ← sameText] at understood
  cases present : type.declaration with
  | none =>
    -- Nothing is taken from a text that is not understood.
    have unread : type.isParsed = false := by simp [isParsed, present]
    exact {
      understood
      named := by simp [unread]
      segments := by simp [unread]
      members := by simp [DetectedType.members, present]
      annotations := by simp [DetectedType.annotations, present]
      references := by simp [DetectedType.references, present]
      passedOn := by simp [name, modules, DetectedType.members, DetectedType.annotations,
        DetectedType.references, present] }
  | some declaration =>
    have parsed : type.isParsed = true := by simp [isParsed, present]
    -- What a type holds is what was read from its text.
    obtain ⟨same, read, again⟩ := read_of_detect found parsed
    obtain rfl : declaration = same := Option.some.inj (present.symm.trans again)
    obtain ⟨_, _, _, -, annotated, fragmented⟩ := Declaration.of_read read
    exact {
      understood
      named := fun _ => by
        simp only [modules, name, present]
        exact fullName_of_detect found present
      segments := fun _ part listed =>
        Declaration.segment_of_read read (by simpa [modules, name, present] using listed)
      members := fun member listed => by
        simp only [DetectedType.members, present, fragmented] at listed
        exact Declaration.of_mem_fragments listed
      annotations := fun annotation listed => by
        simp only [DetectedType.annotations, present, annotated] at listed
        exact Declaration.of_mem_fragments listed
      references := fun reference listed => by
        simp only [DetectedType.references, present] at listed
        exact ⟨Declaration.ne_nil_of_mem_references listed,
          Declaration.single_of_mem_references read listed⟩
      passedOn := by simp [parsed] }

/-- Every type has its form, however it is built and from whatever texts: if its text declares its
name, its modules and name are joined to that, trimmed and without a brace, and otherwise it has no
parts; members, annotations and references are not empty and on one line each, the first two trimmed
and without the mark between them. -/
theorem wellFormed_of_built {type : DetectedType} (built : IsBuilt type) : WellFormed type := by
  obtain ⟨fullName, idl, found⟩ := built.detect
  exact wellFormed_of_detect found

/-- The type of a topic that is loaded: behind its name a base clause, and bounds that leave nothing
of a member, or blanks at its end, when they are dropped. -/
theorem wellFormed_of_loaded_topic :
    let idl := "@key @ @x\nstruct  A :: B : C<2147483647> \x7b\n <2147483647>; ;\n".toList ++
      "sequence<c::D,2147483647> d <2147483647>;\x7d;".toList
    let topic : DetectedTopic := ⟨"t".toList, "A::B".toList, idl,
      some ⟨["key".toList, "x".toList], ["A".toList], "B".toList, ["sequence<c::D> d".toList]⟩⟩
    let text := Json.printRecord .compact topic.record
    DetectedTopic.ofJson text = .ok topic ∧ topic.type.references = ["c::D".toList] ∧
      WellFormed topic.type := by
  intro idl topic text
  have found : DetectedTopic.ofJson text = .ok topic := by decide +kernel
  exact ⟨found, by decide +kernel, wellFormed_of_built (.ofLoadedTopic found)⟩

end DetectedType
end IdlScout
