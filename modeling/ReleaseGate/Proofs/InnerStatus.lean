import ReleaseGate.Proofs.Heeded
import ReleaseGate.Service.License

/-! What a customer lookup makes of the status inside its reply. -/

namespace ReleaseGate.Service.License

open Http (Reply)

/-- Digits that mean a number. -/
def Digits (cs : List Char) (n : Nat) : Prop :=
  cs ≠ [] ∧ (∀ c ∈ cs, c.isDigit = true) ∧ Nat.ofDigitChars 10 cs 0 = n

/-- A minus sign, if there is one, and what is behind the sign. -/
def signed : List Char → Bool × List Char
  | '-' :: rest => (true, rest)
  | '+' :: rest => (false, rest)
  | other => (false, other)

/-- The text is an integer in decimal, between white space: the sign and the size. -/
def Written (text : String) (minus : Bool) (n : Nat) : Prop :=
  (signed (Text.trimmed text.toList)).1 = minus ∧
    Digits (signed (Text.trimmed text.toList)).2 n

theorem wordOfDigits?_eq_some_iff {digits : List Char} {n : Nat} :
    wordOfDigits? digits = some n ↔ n < 65536 ∧ Digits digits n := by
  have value : Nat.ofDigitChars 10 digits 0 =
      digits.foldl (fun n c => 10 * n + (c.toNat - 48)) 0 := Nat.ofDigitChars_eq_foldl
  unfold wordOfDigits? Digits
  rw [value]
  grind

theorem not_digits_minus (rest : List Char) (n : Nat) : ¬ Digits ('-' :: rest) n := by
  rintro ⟨-, all, -⟩
  exact absurd (all '-' List.mem_cons_self) (by decide)

/-- A text is read as the number that it means, if that is small and has no minus sign. -/
theorem statusOfText?_eq_some_iff {text : String} {n : Nat} :
    statusOfText? text = some n ↔ n < 65536 ∧ Written text false n := by
  unfold statusOfText? Written
  rw [wordOfDigits?_eq_some_iff]
  generalize Text.trimmed text.toList = cs
  fun_cases signed cs with
  | case1 rest => simp [not_digits_minus]
  | case2 rest => simp
  | case3 cs noMinus noPlus =>
    split
    · exact absurd rfl (noPlus _)
    · simp

/-- The status is a natural number, as it is or in a text. -/
inductive Says : Json → Nat → Prop
  | number (n : Nat) : Says (.number (.whole n)) n
  | text {text : String} {n : Nat} (written : Written text false n) : Says (.text text) n

/-- The status in a body is a natural number. -/
def States (body : Json) (n : Nat) : Prop :=
  ∃ status, body.field? "status_code" = some status ∧ Says status n

/-- A status is read if it is a natural number and a small one. -/
theorem innerStatus?_eq_some_iff {body : Json} {n : Nat} :
    innerStatus? body = some n ↔ n < 65536 ∧ States body n := by
  unfold innerStatus? States
  split
  · rename_i m found
    rw [found]
    constructor
    · intro read
      split at read
      · rename_i small
        cases read
        exact ⟨small, _, rfl, .number n⟩
      · cases read
    · rintro ⟨small, status, ⟨⟩, ⟨⟩⟩
      exact if_pos small
  · rename_i text found
    rw [found, statusOfText?_eq_some_iff]
    constructor
    · rintro ⟨small, written⟩
      exact ⟨small, _, rfl, .text written⟩
    · rintro ⟨small, status, ⟨⟩, written⟩
      cases written with
      | text written => exact ⟨small, written⟩
  · rename_i noNumber noText
    constructor
    · rintro ⟨⟩
    · rintro ⟨-, status, found, stated⟩
      cases stated with
      | number => exact absurd found (noNumber n)
      | text written => exact absurd found (noText _)

/-- No status, or 200: as a number, whole or a double, or as a text. -/
inductive Good : Option Json → Prop
  | absent : Good none
  | null : Good (some .null)
  | whole : Good (some (.number (.whole 200)))
  | real : Good (some (.number (.real 0x4069000000000000)))
  | text {text : String} (written : Written text false 200) : Good (some (.text text))

-- The double among them.
example : Text.Double.text 0x4069000000000000 = "200.0" := by decide +kernel

/-- A status other than 200. -/
inductive Bad : Json → Prop
  | number {n : Json.Number} (whole : n ≠ .whole 200) (real : n ≠ .real 0x4069000000000000) :
      Bad (.number n)
  | text {text : String} {minus : Bool} {n : Nat} (written : Written text minus n)
      (other : (if minus then -(n : Int) else n) ≠ 200) : Bad (.text text)

theorem Written.unique {text : String} {minus other : Bool} {m n : Nat}
    (one : Written text minus m) (two : Written text other n) : minus = other ∧ m = n :=
  ⟨one.1.symm.trans two.1, one.2.2.2.symm.trans two.2.2.2⟩

theorem Good.not_bad {status : Json} (good : Good (some status)) : ¬ Bad status := by
  intro bad
  cases good with
  | null => cases bad
  | whole =>
    cases bad with
    | number whole _ => exact whole rfl
  | real =>
    cases bad with
    | number _ real => exact real rfl
  | text written =>
    cases bad with
    | text other different =>
      obtain ⟨rfl, rfl⟩ := written.unique other
      exact different rfl

/-- The status inside a body is honoured: any other than 200 makes the lookup fail, and an email is
given only with a good one, as it stands in the body and if it is not blank. -/
structure Honoured (body : Json) (result : Except Failure String) : Prop where
  fails : ∀ status, body.field? "status_code" = some status → Bad status →
    ∃ failure, result = .error failure
  gives : ∀ email, result = .ok email → Good (body.field? "status_code") ∧
    Text.blank email = false ∧ email = body.textAt "replicatedEmail"

variable {body : Json} {n : Nat}

theorem email_of_states (small : n < 65536) (states : States body n) (other : n ≠ 200) :
    email body = .error (.backend backend ("customer lookup returned status " ++ toString n ++
      ": " ++ body.textAt "message")) := by
  rw [email, innerStatus?_eq_some_iff.mpr ⟨small, states⟩, Option.filter_some_pos (by simpa)]

/-- A status that is not read, or is 200, leaves it to the email. -/
theorem email_of_silent (silent : ∀ n < 65536, States body n → n = 200) :
    email body =
      if Text.blank (body.textAt "replicatedEmail") then
        .error (.backend backend "customer lookup returned no email")
      else .ok (body.textAt "replicatedEmail") := by
  have unread : (innerStatus? body).filter (· ≠ 200) = none := by
    rw [Option.filter_eq_none_iff]
    intro n read
    obtain ⟨small, states⟩ := innerStatus?_eq_some_iff.mp read
    simpa using silent n small states
  rw [email, unread]

theorem honoured_error (failure : Failure) : Honoured body (.error failure) :=
  ⟨fun _ _ _ => ⟨failure, rfl⟩, by rintro email ⟨⟩⟩

theorem honoured_ok_iff (filled : Text.blank (body.textAt "replicatedEmail") = false) :
    Honoured body (.ok (body.textAt "replicatedEmail")) ↔ Good (body.field? "status_code") := by
  constructor
  · intro honoured
    exact (honoured.gives _ rfl).1
  · intro good
    constructor
    · intro status found bad
      rw [found] at good
      exact absurd bad good.not_bad
    · rintro email ⟨⟩
      exact ⟨good, filled, rfl⟩

theorem honoured_iff : Honoured body (email body) ↔
    Text.blank (body.textAt "replicatedEmail") = true ∨ Good (body.field? "status_code") ∨
      ∃ n < 65536, n ≠ 200 ∧ States body n := by
  by_cases told : ∃ n < 65536, n ≠ 200 ∧ States body n
  · obtain ⟨n, small, other, states⟩ := told
    rw [email_of_states small states other]
    exact iff_of_true (honoured_error _) (.inr (.inr ⟨n, small, other, states⟩))
  · have silent : ∀ n < 65536, States body n → n = 200 := by
      intro n small states
      by_contra other
      exact told ⟨n, small, other, states⟩
    rw [email_of_silent silent]
    cases blank : Text.blank (body.textAt "replicatedEmail") with
    | true => exact iff_of_true (honoured_error _) (.inl rfl)
    | false =>
      rw [if_neg (by decide), honoured_ok_iff blank]
      simp [told]

variable {reply : Reply}

theorem outcome_of_body (succeeded : reply.succeeded = true)
    (decoded : reply.json? emailShape = some body) (base license : String) :
    (customerEmail base license).outcome (.ok reply) = email body := by
  simp [customerEmail, fetch, Http.Exchange.document, refused, succeeded, decoded]

/-- A customer lookup whose reply has a body fails for a status in it that is a small natural number
and not 200, and says which. Otherwise an email that is not blank is given as it stands, so that the
status is honoured unless it is none of those that are read and not a good one either. -/
theorem customerEmail_of_body (succeeded : reply.succeeded = true)
    (decoded : reply.json? emailShape = some body) (base license : String) :
    (∀ n < 65536, n ≠ 200 → States body n →
      (customerEmail base license).outcome (.ok reply) =
        .error (.backend backend ("customer lookup returned status " ++ toString n ++ ": " ++
          body.textAt "message"))) ∧
    ((∀ n < 65536, States body n → n = 200) →
      (customerEmail base license).outcome (.ok reply) =
        if Text.blank (body.textAt "replicatedEmail") then
          .error (.backend backend "customer lookup returned no email")
        else .ok (body.textAt "replicatedEmail")) ∧
    (Honoured body ((customerEmail base license).outcome (.ok reply)) ↔
      Text.blank (body.textAt "replicatedEmail") = true ∨ Good (body.field? "status_code") ∨
        ∃ n < 65536, n ≠ 200 ∧ States body n) := by
  rw [outcome_of_body succeeded decoded]
  exact ⟨fun n small other states => email_of_states small states other, email_of_silent,
    honoured_iff⟩

/-- A reply that has an email and a status in its body. -/
def answer (status : String) : Reply where
  status := 200
  headers := []
  body :=
    ("\x7b\"replicatedEmail\":\"ops@example.com\",\"status_code\":" ++ status ++ "\x7d").toUTF8

def answered (status : Json) : Json :=
  .record [("replicatedEmail", .text "ops@example.com"), ("status_code", status)]

theorem json?_answer (status : String) :
    (answer status).json? emailShape =
      (Json.ofText emailShape ("\x7b\"replicatedEmail\":\"ops@example.com\",\"status_code\":" ++
        status ++ "\x7d")).toOption := by
  unfold answer
  generalize _ ++ "\x7d" = body
  have content : ({ status := 200, headers := [], body := body.toUTF8 } : Reply).content =
      body.toUTF8 := rfl
  exact Reply.json?_of_text rfl content emailShape

theorem customerEmail_of_missing :
    (customerEmail "http://license.example" "free-1").outcome (.ok (answer "\" 404\"")) =
      .error (.backend backend "customer lookup returned status 404: ") := by
  have decoded : (answer "\" 404\"").json? emailShape = some (answered (.text " 404")) := by
    rw [json?_answer]
    decide +kernel
  have bare : signed (Text.trimmed " 404".toList) = (false, ['4', '0', '4']) := by decide
  have written : Written " 404" false 404 := by
    rw [Written, bare]
    exact ⟨rfl, by simp, by simp, rfl⟩
  exact (customerEmail_of_body rfl decoded "http://license.example" "free-1").1 404 (by decide)
    (by decide) ⟨_, rfl, .text written⟩

/-- A status that does not fit into 16 bits is passed over. -/
theorem customerEmail_of_oversized :
    (answer "70000").json? emailShape = some (answered (.number (.whole 70000))) ∧
      Bad (.number (.whole 70000)) ∧
      (customerEmail "http://license.example" "free-1").outcome (.ok (answer "70000")) =
        .ok "ops@example.com" := by
  have decoded : (answer "70000").json? emailShape = some (answered (.number (.whole 70000))) := by
    rw [json?_answer]
    decide +kernel
  refine ⟨decoded, .number (by decide) (by decide), ?_⟩
  rw [outcome_of_body rfl decoded]
  rfl

end ReleaseGate.Service.License
