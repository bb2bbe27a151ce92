import BrickLint.Proofs.Spelling.EditDistance
import BrickLint.Proofs.Token

/-!
# The suggested name

The search for a similar name passes over the candidates whose length puts them out of reach, and
compares the lengths before it lower-cases the names. Lower-casing can lengthen a text, but only by
a character that no identifier has, so no candidate within the limit is lost. The search finds the
first of the nearest candidates, as a comparison with all of them would.
-/

namespace BrickLint

open Text

/-- Whether a character is an ASCII character. -/
def isAscii (c : Char) : Bool :=
  c.toNat < 128

/-- How far a candidate is from a name, capitals not counting. -/
def nameDistance (name : List Char) (candidate : String) : Nat :=
  editDistance (lowercase name) (lowercase candidate.toList)

section Counting

variable {n : Nat} {as bs : List Char}

/-- One edit adds at most one character of a kind. -/
theorem IsEdit.countP_le (p : Char → Bool) (h : IsEdit as bs) : bs.countP p ≤ as.countP p + 1 := by
  cases h <;> simp only [List.countP_append, List.countP_cons] <;> split_ifs <;> omega

/-- A sequence of edits adds at most as many characters of a kind as it has edits. -/
theorem EditsTo.countP_le (p : Char → Bool) (h : EditsTo n as bs) :
    bs.countP p ≤ as.countP p + n := by
  induction h with
  | refl => simp
  | step _ hedit ih => have := hedit.countP_le p; omega

/-- The distance bounds how many more characters of a kind a text has. -/
theorem countP_le_add_editDistance (p : Char → Bool) (as bs : List Char) :
    bs.countP p ≤ as.countP p + editDistance as bs :=
  (editsTo_editDistance as bs).countP_le p

/-- The distance bounds how much longer a text is. -/
theorem length_le_add_editDistance (as bs : List Char) :
    as.length ≤ bs.length + editDistance as bs := by
  have h := countP_le_add_editDistance (fun _ => true) bs as
  simpa [editDistance_comm bs as] using h

end Counting

section Lowering

/-- Lower-casing shortens no text. -/
theorem length_le_length_lowerAfter (before cs : List Char) :
    cs.length ≤ (lowerAfter before cs).length := by
  induction cs generalizing before with
  | nil => simp [lowerAfter]
  | cons c cs ih =>
    have hrest := ih (c :: before)
    simp only [lowerAfter, List.length_append, List.length_cons]
    split_ifs <;> simp <;> omega

/-- Each character lowers to at most one ASCII character: where it lowers to two, the second is the
combining dot. -/
theorem countP_isAscii_lowerAfter_le (before cs : List Char) :
    (lowerAfter before cs).countP isAscii ≤ cs.length := by
  induction cs generalizing before with
  | nil => simp [lowerAfter]
  | cons c cs ih =>
    have hrest := ih (c :: before)
    have hdotted : ['i', Char.ofNat 0x307].countP isAscii = 1 := by decide
    have hsingle (d : Char) : [d].countP isAscii ≤ 1 := List.countP_le_length
    simp only [lowerAfter, List.countP_append, List.length_cons]
    split_ifs
    · omega
    · have := hsingle (Char.ofNat 0x3c2); omega
    · have := hsingle (Char.ofNat 0x3c3); omega
    · have := hsingle (lowerChar c); omega

/-- The small letter of an ASCII character is an ASCII character. -/
theorem isAscii_toLower {c : Char} (hc : isAscii c = true) : isAscii c.toLower = true := by
  simp only [isAscii, decide_eq_true_eq] at hc ⊢
  unfold Char.toLower
  split
  case isTrue hcapital =>
    have hlast : c.toNat ≤ 90 := UInt32.le_iff_toNat_le.mp hcapital.2
    have hsum : (c.val + ('a'.val - 'A'.val)).toNat = (c.toNat + 32) % 2 ^ 32 :=
      UInt32.toNat_add c.val ('a'.val - 'A'.val)
    change (c.val + ('a'.val - 'A'.val)).toNat < 128
    omega
  case isFalse => exact hc

/-- ASCII characters are lowered one by one. -/
theorem lowerAfter_of_isAscii (before : List Char) {cs : List Char}
    (h : ∀ c ∈ cs, isAscii c = true) : lowerAfter before cs = cs.map Char.toLower := by
  induction cs generalizing before with
  | nil => rfl
  | cons c cs ih =>
    obtain ⟨hc, hrest⟩ := List.forall_mem_cons.mp h
    have hcode : c.toNat < 128 := by simpa [isAscii] using hc
    have hdotted : c.toNat ≠ 0x130 := by omega
    have hsigma : c.toNat ≠ 0x3a3 := by omega
    simp [lowerAfter, lowerChar, hcode, hdotted, hsigma, ih _ hrest]

variable {candidate : String}

/-- The characters of an identifier are ASCII characters. -/
theorem isAscii_of_isIdentifier (h : isIdentifier candidate = true) :
    ∀ c ∈ candidate.toList, isAscii c = true := by
  intro c hc
  have hcode := (isIdentChar_iff c).mp (isIdentChar_of_mem h hc)
  simp only [isAscii, decide_eq_true_eq]
  omega

/-- An identifier keeps its length in lower case. -/
theorem length_lowercase_of_isIdentifier (h : isIdentifier candidate = true) :
    (lowercase candidate.toList).length = candidate.toList.length := by
  rw [lowercase, lowerAfter_of_isAscii [] (isAscii_of_isIdentifier h), List.length_map]

/-- An identifier in lower case consists of ASCII characters. -/
theorem countP_isAscii_lowercase_of_isIdentifier (h : isIdentifier candidate = true) :
    (lowercase candidate.toList).countP isAscii = candidate.toList.length := by
  have hascii := isAscii_of_isIdentifier h
  rw [← length_lowercase_of_isIdentifier h, List.countP_eq_length, lowercase,
    lowerAfter_of_isAscii [] hascii]
  intro c hc
  obtain ⟨d, hd, rfl⟩ := List.mem_map.mp hc
  exact isAscii_toLower (hascii d hd)

/-- A candidate is at most as much longer than a name as its distance says, although lower-casing
may have lengthened the name. -/
theorem length_le_add_nameDistance (name : List Char) (h : isIdentifier candidate = true) :
    candidate.toList.length ≤ name.length + nameDistance name candidate := by
  have hcount := countP_le_add_editDistance isAscii (lowercase name) (lowercase candidate.toList)
  rw [countP_isAscii_lowercase_of_isIdentifier h] at hcount
  have hname : (lowercase name).countP isAscii ≤ name.length := countP_isAscii_lowerAfter_le [] name
  unfold nameDistance
  omega

/-- A name is at most as much longer than a candidate as the distance of the two says. -/
theorem name_length_le_add_nameDistance (name : List Char) (h : isIdentifier candidate = true) :
    name.length ≤ candidate.toList.length + nameDistance name candidate := by
  have hlength := length_le_add_editDistance (lowercase name) (lowercase candidate.toList)
  rw [length_lowercase_of_isIdentifier h] at hlength
  have hname : name.length ≤ (lowercase name).length := length_le_length_lowerAfter [] name
  unfold nameDistance
  omega

/-- A candidate that is passed over for its length is not within the limit. -/
theorem lt_nameDistance_of_isOutOfReach {name : List Char} (h : isIdentifier candidate = true)
    (hreach : isOutOfReach name candidate = true) :
    editLimit name < nameDistance name candidate := by
  have hcandidate := length_le_add_nameDistance name h
  have hname := name_length_le_add_nameDistance name h
  simp only [isOutOfReach, Bool.or_eq_true, decide_eq_true_eq] at hreach
  omega

end Lowering

section Search

variable {name : List Char} {candidates : List String} {candidate best : String}

/-- The candidate is the first of those that are nearest to a name: the candidates in front of it
are farther away, and none behind it is nearer. -/
def IsFirstNearest (name : List Char) (candidates : List String) (best : String) : Prop :=
  ∃ before after, candidates = before ++ best :: after ∧
    (∀ candidate ∈ before, nameDistance name best < nameDistance name candidate) ∧
    ∀ candidate ∈ after, nameDistance name best ≤ nameDistance name candidate

namespace IsFirstNearest

/-- The first of the nearest candidates is one of them. -/
theorem mem (h : IsFirstNearest name candidates best) : best ∈ candidates := by
  obtain ⟨before, after, rfl, -, -⟩ := h
  simp

/-- No candidate is nearer. -/
theorem le (h : IsFirstNearest name candidates best) (hcandidate : candidate ∈ candidates) :
    nameDistance name best ≤ nameDistance name candidate := by
  obtain ⟨before, after, rfl, hbefore, hafter⟩ := h
  simp only [List.mem_append, List.mem_cons] at hcandidate
  rcases hcandidate with hmem | rfl | hmem
  · exact (hbefore candidate hmem).le
  · exact le_rfl
  · exact hafter candidate hmem

/-- Every candidate in front of it is farther away. -/
theorem find?_eq (h : IsFirstNearest name candidates best) :
    candidates.find? (nameDistance name · ≤ nameDistance name best) = some best := by
  obtain ⟨before, after, hsplit, hbefore, -⟩ := h
  rw [List.find?_eq_some_iff_append]
  refine ⟨by simp, before, after, hsplit, fun candidate hcandidate => ?_⟩
  simpa using hbefore candidate hcandidate

/-- There is only one first of the nearest candidates. -/
theorem unique {other : String} (h : IsFirstNearest name candidates best)
    (h' : IsFirstNearest name candidates other) : best = other := by
  have hdistance : nameDistance name best = nameDistance name other :=
    Nat.le_antisymm (h.le h'.mem) (h'.le h.mem)
  have hfind := h.find?_eq
  rw [hdistance, h'.find?_eq] at hfind
  exact (Option.some.inj hfind).symm

/-- A candidate that is nearer than all before it becomes the first of the nearest. -/
theorem concat_of_lt
    (h : ∀ other ∈ candidates, nameDistance name candidate < nameDistance name other) :
    IsFirstNearest name (candidates ++ [candidate]) candidate :=
  ⟨candidates, [], rfl, h, by simp⟩

/-- A candidate that is not nearer takes nothing from the first of the nearest. -/
theorem concat_of_le (h : IsFirstNearest name candidates best)
    (hle : nameDistance name best ≤ nameDistance name candidate) :
    IsFirstNearest name (candidates ++ [candidate]) best := by
  obtain ⟨before, after, rfl, hbefore, hafter⟩ := h
  refine ⟨before, after ++ [candidate], by simp, hbefore, ?_⟩
  simpa [or_imp, forall_and] using ⟨hafter, hle⟩

end IsFirstNearest

/-- What the search keeps when it has seen some candidates: the first of the nearest, with its
distance, if that is within the limit. -/
inductive Keeps (name : List Char) (candidates : List String) : Option (String × Nat) → Prop
  | none (h : ∀ candidate ∈ candidates, editLimit name < nameDistance name candidate) :
    Keeps name candidates none
  | some {best : String} (h : IsFirstNearest name candidates best)
    (hlimit : nameDistance name best ≤ editLimit name) :
    Keeps name candidates (some (best, nameDistance name best))

variable {kept : Option (String × Nat)}

/-- The test of the lengths changes nothing: a further identifier is taken exactly when it is nearer
than the kept candidate, or than the limit allows. -/
theorem betterMatch_of_isIdentifier (hcandidate : isIdentifier candidate = true)
    (hbound : (kept.map (·.2)).getD (editLimit name + 1) ≤ editLimit name + 1) :
    betterMatch name (lowercase name) kept candidate =
      if nameDistance name candidate < (kept.map (·.2)).getD (editLimit name + 1) then
        some (candidate, nameDistance name candidate) else kept := by
  unfold betterMatch
  split
  case isTrue hreach =>
    have hfar := lt_nameDistance_of_isOutOfReach hcandidate hreach
    rw [if_neg (by omega)]
  case isFalse => rfl

/-- One step of the search, on an identifier. -/
theorem Keeps.betterMatch (h : Keeps name candidates kept)
    (hcandidate : isIdentifier candidate = true) :
    Keeps name (candidates ++ [candidate]) (betterMatch name (lowercase name) kept candidate) := by
  cases h with
  | none hfar =>
    rw [betterMatch_of_isIdentifier hcandidate (by simp)]
    simp only [Option.map_none, Option.getD_none]
    split
    case isTrue hnear =>
      refine .some (.concat_of_lt fun other hother => ?_) (by omega)
      have := hfar other hother
      omega
    case isFalse hnear =>
      refine .none fun other hother => ?_
      rcases List.mem_append.mp hother with hmem | hmem
      · exact hfar other hmem
      · rw [List.mem_singleton.mp hmem]
        omega
  | some hbest hlimit =>
    rw [betterMatch_of_isIdentifier hcandidate (by simpa using by omega)]
    simp only [Option.map_some, Option.getD_some]
    split
    case isTrue hnear =>
      exact .some (.concat_of_lt fun other hother => hnear.trans_le (hbest.le hother)) (by omega)
    case isFalse hnear => exact .some (hbest.concat_of_le (by omega)) hlimit

/-- The whole search, on identifiers. -/
theorem keeps_foldl_betterMatch (name : List Char)
    (h : ∀ candidate ∈ candidates, isIdentifier candidate = true) :
    Keeps name candidates (candidates.foldl (betterMatch name (lowercase name)) none) := by
  induction candidates using List.reverseRecOn with
  | nil => exact .none (by simp)
  | append_singleton candidates candidate ih =>
    rw [List.foldl_concat]
    exact (ih fun other hother => h other (by simp [hother])).betterMatch (h candidate (by simp))

/-- Among identifiers, the search that passes over candidates for their length finds what a
comparison with all of them finds: the first of the nearest, if that is within the limit, and
nothing otherwise. No candidate within the limit is passed over. -/
theorem suggest_finds_firstNearest (name : List Char) (candidates : List String)
    (h : ∀ candidate ∈ candidates, isIdentifier candidate = true) :
    (∀ best, suggest name candidates = some best ↔
      IsFirstNearest name candidates best ∧ nameDistance name best ≤ editLimit name) ∧
    (suggest name candidates = none ↔
      ∀ candidate ∈ candidates, editLimit name < nameDistance name candidate) ∧
    ∀ candidate ∈ candidates, nameDistance name candidate ≤ editLimit name →
      isOutOfReach name candidate = false := by
  have hreach : ∀ candidate ∈ candidates, nameDistance name candidate ≤ editLimit name →
      isOutOfReach name candidate = false := by
    intro candidate hcandidate hnear
    by_contra hout
    have hfar := lt_nameDistance_of_isOutOfReach (h candidate hcandidate) (by simpa using hout)
    omega
  have hkeeps := keeps_foldl_betterMatch name h
  unfold suggest
  generalize candidates.foldl (betterMatch name (lowercase name)) none = kept at hkeeps
  cases hkeeps with
  | none hfar =>
    refine ⟨fun best => ?_, by simpa using hfar, hreach⟩
    simp only [Option.map_none, reduceCtorEq, false_iff, not_and, not_le]
    exact fun hbest => hfar best hbest.mem
  | @some first hfirst hlimit =>
    refine ⟨fun best => ?_, ?_, hreach⟩
    · simp only [Option.map_some, Option.some.injEq]
      constructor
      · rintro rfl
        exact ⟨hfirst, hlimit⟩
      · exact fun hbest => hfirst.unique hbest.1
    · simp only [Option.map_some, reduceCtorEq, false_iff, not_forall, not_lt]
      exact ⟨first, hfirst.mem, hlimit⟩

/-- A capital I with dot lengthens a name when it is lower-cased. Two candidates are then one edit
away, and the first is the one that is suggested. -/
theorem suggest_finds_firstNearest_dotted :
    (∀ candidate ∈ ["Off", "WaiXt", "Wait"], isIdentifier candidate = true) ∧
      suggest "wa\u0130t".toList ["Off", "WaiXt", "Wait"] = some "WaiXt" ∧
      IsFirstNearest "wa\u0130t".toList ["Off", "WaiXt", "Wait"] "WaiXt" := by
  have h : ∀ candidate ∈ ["Off", "WaiXt", "Wait"], isIdentifier candidate = true := by decide
  have hfound : suggest "wa\u0130t".toList ["Off", "WaiXt", "Wait"] = some "WaiXt" := by decide
  exact ⟨h, hfound, (((suggest_finds_firstNearest _ _ h).1 "WaiXt").mp hfound).1⟩

end Search

end BrickLint
