import ReleaseGate.Objects.Credentials
import ReleaseGate.Settings

/-! How long the credentials of a role are good. -/

namespace ReleaseGate.Objects

variable {seconds : Int} {session : Session} {role : String} {now : Instant}
  {federation : Federation}

/-- The credentials are good for so many seconds from now on, and no longer. -/
structure Credentials.Last (credentials : Credentials) (now : Instant) (seconds : Int) : Prop where
  ends : credentials.expiresAt = now.plusSeconds seconds
  fresh : credentials.expired now = false
  ended : ∀ later, credentials.expired later = true ↔
    credentials.expiresAt.nanoseconds ≤ later.nanoseconds

namespace Federation

/-- A federation of the lifetime can be made, and it gives the role credentials that last as long,
but at least for a second. -/
def Grants (seconds : Int) (session : Session) (role : String) (now : Instant) : Prop :=
  ∃ federation credentials, ofSeconds? seconds = some federation ∧
    federation.assumeRole session role now = .ok (some credentials) ∧
    credentials.Last now (max seconds 1)

theorem ofSeconds?_eq_some_iff :
    ofSeconds? seconds = some federation ↔
      max seconds 1 ≤ longest ∧ federation = ⟨max seconds 1⟩ := by
  unfold ofSeconds?
  rw [Option.ite_none_right_eq_some, Option.some_inj]
  exact and_congr_right fun _ => eq_comm

theorem ofSeconds?_eq_none_iff : ofSeconds? seconds = none ↔ longest < max seconds 1 := by
  unfold ofSeconds?
  by_cases fits : max seconds 1 ≤ longest
  · rw [if_pos fits]
    exact iff_of_false nofun (Int.not_lt.mpr fits)
  · rw [if_neg fits]
    exact iff_of_true rfl (Int.not_le.mp fits)

theorem assumeRole_of_role (arn : isRole role = true) (federation : Federation)
    (session : Session) (now : Instant) :
    federation.assumeRole session role now =
      .ok (if (now.plusSeconds federation.lifetime).inCalendar then
        some (credentials (token session role now) (now.plusSeconds federation.lifetime))
      else none) := by
  unfold assumeRole
  rw [if_pos arn]
  dsimp only
  split <;> rfl

theorem credentials_last (token : String) (now : Instant) (positive : 0 < seconds) :
    (credentials token (now.plusSeconds seconds)).Last now seconds where
  ends := rfl
  fresh := by
    unfold Credentials.expired credentials Instant.plusSeconds
    rw [decide_eq_false_iff_not]
    dsimp only
    omega
  ended _ := decide_eq_true_iff

theorem grants_iff (arn : isRole role = true) :
    Grants seconds session role now ↔
      max seconds 1 ≤ longest ∧ (now.plusSeconds (max seconds 1)).inCalendar = true := by
  constructor
  · rintro ⟨federation, credentials, made, assumed, -⟩
    obtain ⟨fits, rfl⟩ := ofSeconds?_eq_some_iff.mp made
    rw [assumeRole_of_role arn, Except.ok.injEq, Option.ite_none_right_eq_some] at assumed
    exact ⟨fits, assumed.1⟩
  · rintro ⟨fits, ends⟩
    have positive : 0 < max seconds 1 := by omega
    refine ⟨⟨max seconds 1⟩, _, ofSeconds?_eq_some_iff.mpr ⟨fits, rfl⟩, ?_,
      credentials_last (token session role now) now positive⟩
    rw [assumeRole_of_role arn, if_pos ends]

/-- Any lifetime is granted that is not too long and ends within the calendar. One that is too long
makes no federation, and one that ends beyond the calendar no credentials. -/
theorem grants_exactly (arn : isRole role = true) (seconds : Int) (session : Session)
    (now : Instant) :
    (Grants seconds session role now ↔
      max seconds 1 ≤ longest ∧ (now.plusSeconds (max seconds 1)).inCalendar = true) ∧
    (ofSeconds? seconds = none ↔ longest < max seconds 1) ∧
    (∀ federation, ofSeconds? seconds = some federation →
      (federation.assumeRole session role now = .ok none ↔
        (now.plusSeconds (max seconds 1)).inCalendar = false)) := by
  refine ⟨grants_iff arn, ofSeconds?_eq_none_iff, fun federation made => ?_⟩
  obtain ⟨-, rfl⟩ := ofSeconds?_eq_some_iff.mp made
  rw [assumeRole_of_role arn, Except.ok.injEq, ite_eq_right_iff]
  simp

/-- A lifetime below a second is granted as a second. -/
theorem grants_least :
    Grants 900 ⟨"us-east-2"⟩ "arn:aws:iam::1:role/x" ⟨0⟩ ∧
      Grants (-5) ⟨"us-east-2"⟩ "arn:aws:iam::1:role/x" ⟨0⟩ := by
  have arn : isRole "arn:aws:iam::1:role/x" = true := by rfl
  exact ⟨(grants_exactly arn 900 _ _).1.mpr ⟨by decide, by decide⟩,
    (grants_exactly arn (-5) _ _).1.mpr ⟨by decide, by decide⟩⟩

/-- Settings that say nothing but a lifetime. -/
def lasting (seconds : Int) : Settings := { objects := { lifetime := seconds } }

/-- A text that is read and says nothing but a lifetime is accepted, whatever the lifetime is. -/
theorem ofText_lasting {text : String}
    (read : (Toml.ofText? text).bind Settings.ofToml? = some (lasting seconds)) :
    Settings.ofText text = .ok (lasting seconds) := by
  have reached : Text.blank ({} : GateSettings).baseUrl = false := by rfl
  unfold Settings.ofText
  rw [read]
  exact if_neg (by simp [lasting, reached])

/-- Settings are read that ask for more seconds than there are, or than the calendar has. -/
theorem not_grants_unbounded :
    Settings.ofText "[object_store]\ncredential_ttl_secs = 9223372036854775807\n" =
        .ok (lasting 9223372036854775807) ∧
      Settings.ofText "[object_store]\ncredential_ttl_secs = 9000000000000\n" =
        .ok (lasting 9000000000000) ∧
      isRole "arn:aws:iam::1:role/x" = true ∧
      ¬ Grants 9223372036854775807 ⟨"us-east-2"⟩ "arn:aws:iam::1:role/x" ⟨0⟩ ∧
      ¬ Grants 9000000000000 ⟨"us-east-2"⟩ "arn:aws:iam::1:role/x" ⟨0⟩ := by
  refine ⟨ofText_lasting (by decide +kernel), ofText_lasting (by decide +kernel), rfl, ?_, ?_⟩
  · rintro ⟨federation, -, made, -⟩
    cases made
  · rintro ⟨federation, given, made, assumed, -⟩
    cases made
    cases assumed

end Federation

end ReleaseGate.Objects
