import ContractHarness.Artifact.Index
import ContractHarness.Proofs.Artifact.Search
import ContractHarness.Proofs.Text.Utf8

/-!
# The names of artifact files

Which files are artifacts, and which names they have, said without taking names of files apart: such
a file is called by the name of the artifact, a dot, and `json` in letters of any case. The letters
tell that the dot is the last one, so that a name is taken apart in one way only.
-/

set_option autoImplicit false

namespace ContractHarness

namespace Utf8

/-- Bytes are valid exactly when they encode a text. -/
theorem isValid_iff {bytes : List UInt8} : isValid bytes = true ↔ ∃ text, bytes = encode text := by
  unfold isValid
  rw [beq_iff_eq]
  constructor
  · intro h
    exact ⟨decode bytes, h.symm⟩
  · rintro ⟨text, rfl⟩
    rw [decode_encode]

/-- The encoding of a text is that of its parts in turn. -/
theorem encode_append (a b : String) : encode (a ++ b) = encode a ++ encode b := by
  unfold encode
  rw [String.toList_append, List.flatMap_append]

/-- Only the empty text is encoded without bytes. -/
theorem encode_eq_nil_iff {text : String} : encode text = [] ↔ text = "" := by
  constructor
  · intro h
    have hdecoded := decode_encode text
    rw [h] at hdecoded
    rw [← hdecoded]
    unfold decode
    rw [decodeChars, String.ofList_nil]
  · rintro rfl
    rfl

end Utf8

namespace FileName

variable {name stem extension : FileName}

/-! ## Names with an extension -/

/-- What stands behind the last dot grows by what is appended, if that has no dot. -/
theorem takeWhile_append (h : dot ∉ extension) (before : FileName) :
    ((before ++ extension).reverse.takeWhile (· ≠ dot)).reverse =
      (before.reverse.takeWhile (· ≠ dot)).reverse ++ extension := by
  have hall : ∀ b ∈ extension.reverse, decide (b ≠ dot) = true := by
    intro b hb
    rw [List.mem_reverse] at hb
    exact decide_eq_true fun heq => h (heq ▸ hb)
  rw [List.reverse_append, List.takeWhile_append_of_pos hall, List.reverse_append,
    List.reverse_reverse]

/-- Seen from the end, what stands before the first dot is the extension. -/
theorem takeWhile_dotted (h : dot ∉ extension) :
    ((stem ++ dot :: extension).reverse.takeWhile (· ≠ dot)).reverse = extension := by
  have hdot := takeWhile_append h (stem ++ [dot])
  simpa using hdot

/-- A name is taken apart at its last dot, unless there is nothing in front of it. -/
theorem split_dotted (h : dot ∉ extension) :
    split (stem ++ dot :: extension) =
      if stem.isEmpty then (stem ++ dot :: extension, none) else (stem, some extension) := by
  have hlength : (stem ++ dot :: extension).length = stem.length + extension.length + 1 := by
    rw [List.length_append, List.length_cons]
    omega
  have hbefore : (stem ++ dot :: extension).take
      ((stem ++ dot :: extension).length - extension.length - 1) = stem := by
    have hrest : (stem ++ dot :: extension).length - extension.length - 1 = stem.length := by omega
    rw [hrest]
    exact List.take_left
  have hshorter : extension.length ≠ (stem ++ dot :: extension).length := by omega
  unfold split
  simp only [takeWhile_dotted h, hbefore, hshorter, false_or]

/-- A name without a dot has no extension. -/
theorem split_of_notMem (h : dot ∉ name) : name.split = (name, none) := by
  have hbehind : (name.reverse.takeWhile (· ≠ dot)).reverse = name := takeWhile_append h []
  unfold split
  simp only [hbehind, true_or, if_true]

/-- A name is split at its last dot, unless nothing stands in front of it. -/
theorem split_eq_some_iff :
    name.split = (stem, some extension) ↔
      name = stem ++ dot :: extension ∧ stem ≠ [] ∧ dot ∉ extension := by
  constructor
  · intro h
    by_cases hdot : dot ∈ name
    · obtain ⟨behind, before, hname, hbehind⟩ :=
        List.eq_append_cons_of_mem (List.mem_reverse.mpr hdot)
      have hsplit : name = before.reverse ++ dot :: behind.reverse := by
        rw [← List.reverse_reverse name, hname]
        simp
      rw [← List.mem_reverse] at hbehind
      rw [hsplit, split_dotted hbehind] at h
      split at h
      · cases h
      · next hne =>
        obtain ⟨rfl, hextension⟩ := Prod.mk.inj h
        obtain rfl := Option.some.inj hextension
        exact ⟨hsplit, fun hnil => hne (List.isEmpty_iff.mpr hnil), hbehind⟩
    · rw [split_of_notMem hdot] at h
      cases h
  · rintro ⟨rfl, hstem, hextension⟩
    rw [split_dotted hextension, if_neg]
    rwa [List.isEmpty_iff]

/-! ## Names of artifacts -/

/-- The letters of `json` in any case are no dots. -/
theorem dot_notMem_of_json (h : extension.map lowerByte = ofText "json") : dot ∉ extension := by
  intro hdot
  have hlower : lowerByte dot ∈ ofText "json" := h ▸ List.mem_map_of_mem hdot
  have hnot : lowerByte dot ∉ ofText "json" := by decide
  exact hnot hlower

/-- A name with the extension `json`, in letters of any case, has the part before it as its stem. -/
theorem stem_dotted (hstem : stem ≠ []) (h : extension.map lowerByte = ofText "json") :
    FileName.stem (stem ++ dot :: extension) = stem := by
  unfold FileName.stem
  rw [split_eq_some_iff.mpr ⟨rfl, hstem, dot_notMem_of_json h⟩]

/-- The names with the extension `json` are something, a dot, and `json` in letters of any case. -/
theorem isJson_iff :
    name.isJson = true ↔ ∃ stem extension, name = stem ++ dot :: extension ∧ stem ≠ [] ∧
      extension.map lowerByte = ofText "json" := by
  unfold isJson
  rw [Option.any_eq_true]
  constructor
  · rintro ⟨extension, hextension, hjson⟩
    obtain ⟨hname, hstem, -⟩ := split_eq_some_iff.mp (Prod.ext rfl hextension)
    exact ⟨_, extension, hname, hstem, of_decide_eq_true hjson⟩
  · rintro ⟨stem, extension, rfl, hstem, hjson⟩
    rw [split_eq_some_iff.mpr ⟨rfl, hstem, dot_notMem_of_json hjson⟩]
    exact ⟨extension, rfl, decide_eq_true hjson⟩

/-- Where the stem is text, the notes of a compiler are told by the end of the name alone. -/
theorem isDebug_dotted (hextension : dot ∉ extension) (text : String) :
    isDebug (Utf8.encode text ++ dot :: extension) = true ↔
      ofText ".dbg.json" <:+ Utf8.encode text ++ dot :: extension := by
  unfold isDebug
  rw [Bool.and_eq_true, List.isSuffixOf_iff_suffix]
  constructor
  · exact fun h => h.2
  · intro hsuffix
    refine ⟨?_, hsuffix⟩
    -- both names are the same, and so is what stands behind their last dot
    obtain ⟨before, hbefore⟩ := hsuffix
    have hdotted : ofText ".dbg.json" = ofText ".dbg" ++ dot :: ofText "json" := rfl
    rw [hdotted, ← List.append_assoc] at hbefore
    have hjson : extension = ofText "json" := by
      rw [← takeWhile_dotted hextension, ← hbefore]
      exact takeWhile_dotted (by decide)
    rw [Utf8.isValid_iff]
    refine ⟨text ++ ".json", ?_⟩
    rw [Utf8.encode_append, hjson]
    rfl

end FileName

/-! ## The artifacts of a tree -/

namespace Entry

/-- There is an artifact of a name at a path below an entry: a regular file called by that name, a
dot, and `json` in letters of any case, unless it is the notes that a compiler keeps beside an
artifact. -/
def HasArtifact (entry : Entry) (name : ArtifactName) (path : FilePath) : Prop :=
  entry.HasFile path ∧ ∃ folders extension,
    path = folders ++ [Utf8.encode name ++ FileName.dot :: extension] ∧ name ≠ "" ∧
    extension.map FileName.lowerByte = FileName.ofText "json" ∧
    ¬ FileName.ofText ".dbg.json" <:+ Utf8.encode name ++ FileName.dot :: extension

variable {entry : Entry} {name : ArtifactName} {path : FilePath}

/-- The name of the artifact at a path is the text that the stem of its last step encodes. -/
theorem artifactName?_eq_some_iff {last : FileName} (hlast : path.getLast? = some last) :
    path.artifactName? = some name ↔ last.stem = Utf8.encode name := by
  unfold FilePath.artifactName?
  rw [hlast, Option.bind_some]
  constructor
  · intro h
    split at h
    · next hvalid =>
      obtain ⟨text, htext⟩ := Utf8.isValid_iff.mp hvalid
      rw [htext, Utf8.decode_encode, Option.some.injEq] at h
      rw [htext, h]
    · cases h
  · intro h
    rw [h, if_pos (Utf8.isValid_iff.mpr ⟨name, rfl⟩), Utf8.decode_encode]

/-- The files that a search finds and that have a name are the artifacts. -/
theorem hasArtifact_iff :
    entry.HasArtifact name path ↔ path ∈ entry.artifacts ∧ path.artifactName? = some name := by
  rw [mem_artifacts_iff]
  constructor
  · rintro ⟨hfile, folders, extension, rfl, hname, hjson, hdebug⟩
    have hlast := List.getLast?_concat (l := folders)
      (a := Utf8.encode name ++ FileName.dot :: extension)
    have hstem : Utf8.encode name ≠ [] := fun h => hname (Utf8.encode_eq_nil_iff.mp h)
    refine ⟨⟨hfile, _, hlast, ?_⟩, ?_⟩
    · unfold FileName.isArtifact
      rw [Bool.and_eq_true, Bool.not_eq_true', Bool.eq_false_iff, FileName.isJson_iff, ne_eq,
        FileName.isDebug_dotted (FileName.dot_notMem_of_json hjson)]
      exact ⟨⟨_, extension, rfl, hstem, hjson⟩, hdebug⟩
    · rw [artifactName?_eq_some_iff hlast]
      exact FileName.stem_dotted hstem hjson
  · rintro ⟨⟨hfile, last, hlast, hartifact⟩, hname⟩
    rw [artifactName?_eq_some_iff hlast] at hname
    unfold FileName.isArtifact at hartifact
    rw [Bool.and_eq_true, Bool.not_eq_true', Bool.eq_false_iff, FileName.isJson_iff] at hartifact
    obtain ⟨⟨stem, extension, rfl, hstem, hjson⟩, hdebug⟩ := hartifact
    rw [FileName.stem_dotted hstem hjson] at hname
    subst hname
    obtain ⟨folders, rfl⟩ := List.getLast?_eq_some_iff.mp hlast
    refine ⟨hfile, folders, extension, rfl, ?_, hjson, ?_⟩
    · rintro rfl
      exact hstem rfl
    · rw [← FileName.isDebug_dotted (FileName.dot_notMem_of_json hjson)]
      exact hdebug

end Entry

end ContractHarness
