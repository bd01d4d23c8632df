import ReleaseGate.Proofs.Bytes
import ReleaseGate.Proofs.Choice

/-! What every request for a version comes to, whatever the candidates: the last of those that
answer it, which their bytes tell. -/

namespace ReleaseGate.Version

open Text (bytes)

/-- The byte between the numbers of a version. -/
def dot : UInt8 := 46

theorem length_lt_of_front {front whole : List UInt8} (h : front <+: whole)
    (longer : whole.length ≠ front.length) : front.length < whole.length := by
  have bound := h.length_le
  omega

/-- A version answers a request by its bytes if they are those requested, or begin with them and go
on with a dot. Where the byte behind the requested ones is looked at, there is one. -/
def answersByBytes (requested version : List UInt8) : Bool :=
  if front : requested <+: version then
    if longer : version.length ≠ requested.length then
      version.get ⟨requested.length, length_lt_of_front front longer⟩ == dot
    else true
  else false

theorem answersByBytes_self (requested : List UInt8) :
    answersByBytes requested requested = true := by
  rw [answersByBytes, dif_pos (List.prefix_refl requested), dif_neg (by simp)]

theorem answersByBytes_append_cons (requested : List UInt8) (byte : UInt8) (rest : List UInt8) :
    answersByBytes requested (requested ++ byte :: rest) = (byte == dot) := by
  rw [answersByBytes, dif_pos (List.prefix_append _ _), dif_pos (by simp)]
  simp

/-- No other character begins with the byte of the dot. -/
theorem head?_utf8EncodeChar_eq_dot_iff (c : Char) :
    (String.utf8EncodeChar c).head? = some dot ↔ c = '.' := by
  have code : c = '.' ↔ c.val.toNat = 46 := Char.toNat_inj.symm
  have byte (n : Nat) : UInt8.ofNat n = dot ↔ n % 256 = 46 := by
    rw [← UInt8.toNat_inj, UInt8.toNat_ofNat']
    rfl
  rw [code]
  fun_cases String.utf8EncodeChar c with
  | case1 | case2 | case3 | case4 =>
    simp only [List.head?_cons, Option.some.injEq, byte]
    omega

theorem answers_append_cons (requested : String) (c : Char) (rest : List Char) :
    answers requested (String.ofList (requested.toList ++ c :: rest)) = (c == '.') := by
  have taken : requested.toList.isPrefixOf? (requested.toList ++ c :: rest) = some (c :: rest) :=
    (Text.isPrefixOf?_eq_some_iff _).mpr rfl
  rw [answers, String.toList_ofList, taken]

/-- Whether a version answers a request is told by their bytes. -/
theorem answers_eq_answersByBytes (requested version : String) :
    answers requested version = answersByBytes (bytes requested.toList) (bytes version.toList) := by
  by_cases front : requested.toList <+: version.toList
  · obtain ⟨rest, whole⟩ := front
    have text : version = String.ofList (requested.toList ++ rest) := by
      rw [whole, String.ofList_toList]
    rw [← whole, Text.bytes_append, text]
    cases rest with
    | nil =>
      have itself : String.ofList (requested.toList ++ []) = requested := by simp
      have nothing : bytes [] = [] := rfl
      rw [itself, nothing, List.append_nil, answersByBytes_self]
      exact answers_iff.mpr (.inl rfl)
    | cons c rest =>
      obtain ⟨byte, more, encoded⟩ := Text.exists_utf8EncodeChar c
      have dotted := head?_utf8EncodeChar_eq_dot_iff c
      rw [encoded, List.head?_cons, Option.some_inj] at dotted
      rw [Text.bytes_cons, encoded, List.cons_append, answersByBytes_append_cons,
        answers_append_cons, Bool.eq_iff_iff, beq_iff_eq, beq_iff_eq, dotted]
  · have apart : ¬ bytes requested.toList <+: bytes version.toList :=
      fun begins => front (Text.bytes_prefix_iff.mp begins)
    rw [answersByBytes, dif_neg apart, answers]
    cases taken : requested.toList.isPrefixOf? version.toList with
    | none => rfl
    | some rest =>
      exact absurd ⟨rest, ((Text.isPrefixOf?_eq_some_iff _).mp taken).symm⟩ front

/-- What a request comes to: the last candidate when any will do, else the last one that extends the
version requested, and a failure when there is none. -/
inductive Settles (requested : String) (candidates : List String) : Except Failure String → Prop
  | newest {version : String} (any : wantsLatest requested = true)
      (last : candidates.getLast? = some version) : Settles requested candidates (.ok version)
  | nothing (any : wantsLatest requested = true) (empty : candidates = []) :
      Settles requested candidates (.error .noCandidates)
  | extending {version : String} (pinned : wantsLatest requested = false)
      (last : LastExtending requested candidates version) :
      Settles requested candidates (.ok version)
  | unanswered (pinned : wantsLatest requested = false)
      (unmet : ∀ version ∈ candidates, ¬ Extends requested version) :
      Settles requested candidates (.error (.versionNotSupported requested))

theorem LastExtending.mem {requested version : String} {candidates : List String}
    (h : LastExtending requested candidates version) : version ∈ candidates := by
  obtain ⟨-, before, after, rfl, -⟩ := h
  simp

theorem LastExtending.unique {requested one two : String} {candidates : List String}
    (h : LastExtending requested candidates one) (h' : LastExtending requested candidates two) :
    one = two := by
  obtain ⟨extended, before, after, rfl, unmet⟩ := h
  exact (h'.not_before unmet extended).symm

theorem settles_choose (requested : String) (candidates : List String) :
    Settles requested candidates (choose requested candidates) := by
  cases latest : wantsLatest requested with
  | true =>
    rw [choose, if_pos latest]
    cases last : candidates.getLast? with
    | none => exact .nothing latest (List.getLast?_eq_none_iff.mp last)
    | some version => exact .newest latest last
  | false =>
    by_cases met : ∃ version ∈ candidates, Extends requested version
    · obtain ⟨version, member, extended⟩ := met
      obtain ⟨last, lastly, chosen⟩ := choose_of_extends latest member extended
      rw [chosen]
      exact .extending latest lastly
    · have unmet : ∀ version ∈ candidates, ¬ Extends requested version :=
        fun version member extended => met ⟨version, member, extended⟩
      have missing : candidates.reverse.find? (answers requested) = none := by
        rw [List.find?_eq_none]
        intro version member answered
        exact unmet version (List.mem_reverse.mp member) (answers_iff.mp answered)
      rw [choose, if_neg (by simp [latest]), missing]
      exact .unanswered latest unmet

/-- A request comes to one thing. -/
theorem Settles.unique {requested : String} {candidates : List String}
    {one two : Except Failure String} (h : Settles requested candidates one)
    (h' : Settles requested candidates two) : one = two := by
  cases h with
  | newest any last =>
    cases h' with
    | newest _ last' => rw [Option.some.inj (last.symm.trans last')]
    | nothing _ empty => simp [empty] at last
    | extending pinned _ => simp [any] at pinned
    | unanswered pinned _ => simp [any] at pinned
  | nothing any empty =>
    cases h' with
    | newest _ last => simp [empty] at last
    | nothing => rfl
    | extending pinned _ => simp [any] at pinned
    | unanswered pinned _ => simp [any] at pinned
  | extending pinned last =>
    cases h' with
    | newest any _ => simp [any] at pinned
    | nothing any _ => simp [any] at pinned
    | extending _ last' => rw [last.unique last']
    | unanswered _ unmet => exact absurd last.1 (unmet _ last.mem)
  | unanswered pinned unmet =>
    cases h' with
    | newest any _ => simp [any] at pinned
    | nothing any _ => simp [any] at pinned
    | extending _ last => exact absurd last.1 (unmet _ last.mem)
    | unanswered => rfl

theorem choose_eq_iff {requested : String} {candidates : List String}
    {result : Except Failure String} :
    choose requested candidates = result ↔ Settles requested candidates result := by
  constructor
  · rintro rfl
    exact settles_choose requested candidates
  · exact (settles_choose requested candidates).unique

/-- What a request comes to, whatever the candidates. A version that was chosen is chosen again when
it is what is requested, and which candidates answer is told by bytes. -/
theorem choose_settles (requested : String) (candidates : List String) :
    (∀ result, choose requested candidates = result ↔ Settles requested candidates result) ∧
    (∀ version, choose requested candidates = .ok version →
      choose version candidates = .ok version) ∧
    ∀ version, answers requested version =
      answersByBytes (bytes requested.toList) (bytes version.toList) :=
  ⟨fun _ => choose_eq_iff, fun _ => choose_again, answers_eq_answersByBytes requested⟩

/-- A candidate that is itself called the latest is chosen again, too. -/
theorem choose_candidate_latest :
    choose "" ["18.2.7", "latest"] = .ok "latest" ∧
      choose "latest" ["18.2.7", "latest"] = .ok "latest" :=
  ⟨rfl, (choose_settles "" ["18.2.7", "latest"]).2.1 "latest" rfl⟩

end ReleaseGate.Version
