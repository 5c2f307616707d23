import TriggerLedger.Proofs.Store.Calls
/-!
# Files of different sessions

The name of a rewritten id ends in a digest of the id, so rewritten ids have
different files as far as their digests differ.  A safe id keeps its own name,
and that may be the very name another id is rewritten to: such an id shadows the
other.  Two sessions of which neither shadows the other have no file in common,
and no call about one of them can be seen from the other.
-/

namespace TriggerLedger

namespace Digest

theorem length_bigEndian (count value : Nat) : (bigEndian count value).length = count := by
  induction count generalizing value with
  | zero => rfl
  | succ count induction => rw [bigEndian, List.length_cons, induction]

theorem length_sha256 (message : List UInt8) : (sha256 message).length = 32 := by
  simp [sha256, length_bigEndian]

theorem toList_fingerprint (count : Nat) (text : String) :
    (fingerprint count text).toList =
      ((sha256 text.toUTF8.toList).take count).flatMap hexByte := by
  rw [fingerprint, String.toList_ofList]

theorem length_fingerprint {count : Nat} (text : String) (short : count ≤ 32) :
    (fingerprint count text).toList.length = 2 * count := by
  have taken : ((sha256 text.toUTF8.toList).take count).length = count := by
    rw [List.length_take, length_sha256]
    omega
  have digits (bytes : List UInt8) : (bytes.flatMap hexByte).length = 2 * bytes.length := by
    induction bytes with
    | nil => rfl
    | cons byte bytes induction =>
        rw [List.flatMap_cons, List.length_append, induction, hexByte]
        simp
        omega
  rw [toList_fingerprint, digits, taken]

end Digest

namespace Directory

/-- Whether an id is used as it is in the names of its files. -/
def IsSafeId (sessionId : String) : Prop := ∀ c ∈ sessionId.toList, isSafe c = true

instance (sessionId : String) : Decidable (IsSafeId sessionId) :=
  decidable_of_iff (sessionId.toList.all isSafe = true) List.all_eq_true

def rewrittenChars (sessionId : String) : List Char :=
  sessionId.toList.map fun c => if isSafe c then c else '_'

/-- An id that is the very name another id is rewritten to. -/
structure Shadows (shadow sessionId : String) : Prop where
  rewritten : ¬ IsSafeId sessionId
  spelled : shadow.toList =
    rewrittenChars sessionId ++ '-' :: (Digest.fingerprint 8 sessionId).toList

variable {sessionId other : String}

theorem stem_of_safe (safe : IsSafeId sessionId) : stem sessionId = sessionId := by
  have all : sessionId.toList.all isSafe = true := List.all_eq_true.mpr safe
  rw [stem, if_pos all]

theorem toList_stem_of_rewritten (rewritten : ¬ IsSafeId sessionId) :
    (stem sessionId).toList =
      rewrittenChars sessionId ++ '-' :: (Digest.fingerprint 8 sessionId).toList := by
  have notAll : ¬ sessionId.toList.all isSafe = true := by
    rw [List.all_eq_true]
    exact rewritten
  rw [stem, if_neg notAll, String.toList_append, String.toList_append, String.toList_ofList]
  simp [rewrittenChars]

theorem isSafe_of_mem_hexByte {byte : UInt8} {c : Char} (member : c ∈ Digest.hexByte byte) :
    isSafe c = true := by
  have digit : ∀ value < 16, isSafe (Nat.digitChar value) = true := by decide
  have bound : byte.toNat < 256 := byte.toNat_lt
  rcases List.mem_pair.mp member with rfl | rfl
  · exact digit _ (by omega)
  · exact digit _ (by omega)

theorem isSafeId_stem (sessionId : String) : IsSafeId (stem sessionId) := by
  by_cases safe : IsSafeId sessionId
  · rw [stem_of_safe safe]
    exact safe
  · intro c member
    rw [toList_stem_of_rewritten safe] at member
    rcases List.mem_append.mp member with kept | added
    · obtain ⟨original, -, rfl⟩ := List.mem_map.mp kept
      split
      case isTrue isSafe => exact isSafe
      case isFalse => decide
    · rcases List.mem_cons.mp added with rfl | digit
      · decide
      · rw [Digest.toList_fingerprint] at digit
        obtain ⟨byte, -, member⟩ := List.mem_flatMap.mp digit
        exact isSafe_of_mem_hexByte member

theorem dot_notMem_stem (sessionId : String) : '.' ∉ (stem sessionId).toList := by
  intro member
  have safe := isSafeId_stem sessionId '.' member
  revert safe
  decide

theorem stem_eq_empty_iff : stem sessionId = "" ↔ sessionId = "" := by
  constructor
  · intro empty
    by_cases safe : IsSafeId sessionId
    · rw [← stem_of_safe safe, empty]
    · have characters := toList_stem_of_rewritten safe
      rw [empty] at characters
      simp at characters
  · rintro rfl
    decide

/-- Rewritten ids of the same name have the same digest. -/
theorem fingerprint_eq_of_stem_eq (rewritten : ¬ IsSafeId sessionId)
    (otherRewritten : ¬ IsSafeId other) (same : stem sessionId = stem other) :
    Digest.fingerprint 8 sessionId = Digest.fingerprint 8 other := by
  -- Digests have one length, so that they are the ends of equal names whatever the ids' lengths.
  have characters := congrArg String.toList same
  rw [toList_stem_of_rewritten rewritten, toList_stem_of_rewritten otherRewritten] at characters
  have lengths : ('-' :: (Digest.fingerprint 8 sessionId).toList).length =
      ('-' :: (Digest.fingerprint 8 other).toList).length := by
    rw [List.length_cons, List.length_cons, Digest.length_fingerprint _ (by decide),
      Digest.length_fingerprint _ (by decide)]
  have tails := (List.append_inj' characters lengths).2
  exact String.toList_inj.mp (List.cons.inj tails).2

theorem stem_eq_of_shadows (shadows : Shadows sessionId other) : stem sessionId = stem other := by
  have spelled : sessionId = stem other := by
    rw [← String.toList_inj, shadows.spelled, toList_stem_of_rewritten shadows.rewritten]
  have safe : IsSafeId sessionId := spelled ▸ isSafeId_stem other
  rw [stem_of_safe safe, spelled]

/-- Different ids have the same name exactly if one of them shadows the other, as far as their
digests differ. -/
theorem stem_eq_iff (different : sessionId ≠ other)
    (digests : ¬ IsSafeId sessionId → ¬ IsSafeId other →
      Digest.fingerprint 8 sessionId ≠ Digest.fingerprint 8 other) :
    stem sessionId = stem other ↔ Shadows sessionId other ∨ Shadows other sessionId := by
  constructor
  · intro same
    -- A safe id is its own name: only if exactly one id is safe can there be a shadow.
    by_cases safe : IsSafeId sessionId <;> by_cases otherSafe : IsSafeId other
    · rw [stem_of_safe safe, stem_of_safe otherSafe] at same
      exact absurd same different
    · rw [stem_of_safe safe] at same
      exact .inl ⟨otherSafe, same ▸ toList_stem_of_rewritten otherSafe⟩
    · rw [stem_of_safe otherSafe] at same
      exact .inr ⟨safe, same ▸ toList_stem_of_rewritten safe⟩
    · exact absurd (fingerprint_eq_of_stem_eq safe otherSafe same) (digests safe otherSafe)
  · rintro (shadows | shadows)
    · exact stem_eq_of_shadows shadows
    · exact (stem_eq_of_shadows shadows).symm

theorem toList_fileName (sessionId : String) :
    (fileName sessionId).toList = (stem sessionId).toList ++ ['.', 'j', 's', 'o', 'n'] := by
  rw [fileName, String.toList_append]
  rfl

/-- A temporary name has one dot, and `tmp` after it; only the empty id's has another one before. -/
theorem toList_temporaryName (sessionId : String) :
    (temporaryName sessionId).toList =
      if sessionId = "" then ['.', 'j', 's', 'o', 'n', '.', 't', 'm', 'p']
      else (stem sessionId).toList ++ ['.', 't', 'm', 'p'] := by
  by_cases empty : sessionId = ""
  · subst empty
    decide
  · have some : ¬ sessionId.isEmpty = true := by simpa using empty
    rw [temporaryName, if_neg some, if_neg empty, String.toList_append]
    rfl

theorem fileName_eq_iff : fileName sessionId = fileName other ↔ stem sessionId = stem other := by
  rw [← String.toList_inj, toList_fileName, toList_fileName, List.append_left_inj,
    String.toList_inj]

/-- No temporary file has the name of the file of a log. -/
theorem fileName_ne_temporaryName (sessionId other : String) :
    fileName sessionId ≠ temporaryName other := by
  intro same
  have last := congrArg (fun name : String => name.toList.getLast?) same
  simp only [toList_fileName, toList_temporaryName] at last
  split at last <;> simp at last

theorem temporaryName_eq_iff :
    temporaryName sessionId = temporaryName other ↔ stem sessionId = stem other := by
  -- The temporary name of the empty id is the name of a stem with a dot, which there is not.
  have noStem (name : String) :
      ['.', 'j', 's', 'o', 'n', '.', 't', 'm', 'p'] ≠ (stem name).toList ++ ['.', 't', 'm', 'p'] := by
    intro same
    have dotted : ['.', 'j', 's', 'o', 'n'] = (stem name).toList :=
      List.append_cancel_right (same : ['.', 'j', 's', 'o', 'n'] ++ _ = _)
    exact dot_notMem_stem name (dotted ▸ by decide)
  rw [← String.toList_inj, toList_temporaryName, toList_temporaryName]
  by_cases empty : sessionId = "" <;> by_cases otherEmpty : other = ""
  · simp [empty, otherEmpty]
  · have named : stem other ≠ "" := fun same => otherEmpty (stem_eq_empty_iff.mp same)
    have stemEmpty : stem sessionId = "" := stem_eq_empty_iff.mpr empty
    rw [if_pos empty, if_neg otherEmpty, stemEmpty]
    exact iff_of_false (noStem other) named.symm
  · have named : stem sessionId ≠ "" := fun same => empty (stem_eq_empty_iff.mp same)
    have stemEmpty : stem other = "" := stem_eq_empty_iff.mpr otherEmpty
    rw [if_neg empty, if_pos otherEmpty, stemEmpty]
    exact iff_of_false (noStem sessionId).symm named
  · rw [if_neg empty, if_neg otherEmpty, List.append_left_inj, String.toList_inj]

def filesOf (sessionId : String) : List String := [fileName sessionId, temporaryName sessionId]

theorem disjoint_filesOf_iff :
    (filesOf sessionId).Disjoint (filesOf other) ↔ stem sessionId ≠ stem other := by
  constructor
  · intro disjoint same
    have shared : fileName sessionId = fileName other := fileName_eq_iff.mpr same
    exact disjoint (a := fileName sessionId) (by simp [filesOf]) (by simp [filesOf, shared])
  · intro different name member otherMember
    simp only [filesOf, List.mem_cons, List.not_mem_nil, or_false] at member otherMember
    rcases member with rfl | rfl <;> rcases otherMember with same | same
    · exact different (fileName_eq_iff.mp same)
    · exact fileName_ne_temporaryName sessionId other same
    · exact fileName_ne_temporaryName other sessionId same.symm
    · exact different (temporaryName_eq_iff.mp same)

end Directory
end TriggerLedger
