import ReleaseGate.Proofs.Bytes
import ReleaseGate.Proofs.Lookup
import ReleaseGate.Proofs.Operation

/-! The products of a listing: which there are, in which order, and how a persona reads them. -/

namespace ReleaseGate

namespace Dict

/-- What is put under every text of a list is found under these, too. -/
theorem get?_foldl_insert {α : Type} (texts : List String) (value : α) (d : Dict α)
    (text : String) : (texts.foldl (fun d text => d.insert text value) d).get? text =
      if text ∈ texts then some value else d.get? text := by
  induction texts generalizing d with
  | nil => rfl
  | cons first texts ih =>
    rw [List.foldl_cons, ih, get?_insert]
    by_cases later : text ∈ texts
    · rw [if_pos later, if_pos (List.mem_cons_of_mem _ later)]
    · simp only [later, if_false, List.mem_cons, or_false]

variable {texts : List String}

theorem mem_distinct {text : String} : text ∈ distinct texts ↔ text ∈ texts := by
  have found := get?_foldl_insert texts () empty text
  unfold distinct
  rw [List.mem_map]
  constructor
  · rintro ⟨⟨_, _⟩, stands, rfl⟩
    rw [mem_entries_iff.mp stands] at found
    split at found
    · assumption
    · cases found
  · intro among
    rw [if_pos among] at found
    exact ⟨(text, ()), mem_entries_iff.mpr found, rfl⟩

theorem ascending_distinct (texts : List String) :
    (distinct texts).Pairwise fun a b => Text.byteOrder a b = .lt :=
  List.pairwise_map.mpr (Dict.ascending _ |>.imp Text.byteOrder_of_lt)

end Dict

/-- Texts that ascend by their bytes are all different. -/
theorem Text.nodup_of_ascending {texts : List String}
    (ascending : texts.Pairwise fun a b => byteOrder a b = .lt) : texts.Nodup := by
  refine ascending.imp fun less same => ?_
  rw [same, byteOrder_self] at less
  cases less

namespace Persona

variable (persona : Persona) (products : List String) (eol : Bool)

/-- Whether a persona is shown a product. -/
def shows (id : String) : Bool :=
  match persona with
  | commercial => eol || Product.registered id
  | trial => (eol || Product.registered id) && !Product.offTrial id
  | opensource => Product.hasOpenSource id

/-- What a listing says of the products that are shown. -/
def written (ids : List String) : List String :=
  match persona with
  | commercial => ids ++ [platformProduct]
  | trial => ids.map Product.label
  | opensource => ids

theorem supportedProducts_eq :
    supportedProducts products eol = products.filter fun id => eol || Product.registered id := by
  cases eol with
  | true => exact (List.filter_eq_self.mpr fun _ _ => rfl).symm
  | false => rfl

theorem visibleProducts_eq :
    persona.visibleProducts products eol =
      persona.written (products.filter (persona.shows eol)) := by
  cases persona with
  | commercial => exact congrArg (· ++ [platformProduct]) (supportedProducts_eq products eol)
  | trial =>
    unfold visibleProducts written
    dsimp only
    rw [supportedProducts_eq, List.filter_filter]
    exact congrArg _ (List.filter_congr fun id _ => Bool.and_comm ..)
  | opensource => rfl

end Persona

namespace Gateway

variable {gateway : Gateway} {settings : ProductSettings} {answers : Answers} {eol : Bool}
  {remote : List String} {id : String}

/-- Products come from the remote catalog, the store and the settings. Enterprise products are
offered only as the settings want it. -/
theorem mem_offered_iff : id ∈ offered settings eol remote ↔
    (id ∈ remote ∨ id ∈ Supply.recorded ∨ eol = true ∧ id = retired ∨
      settings.enterpriseListed = true ∧ id ∈ settings.enterprise) ∧
    (settings.enterpriseListed = false → id ∉ settings.enterprise) := by
  unfold offered
  rw [Dict.mem_distinct]
  cases settings.enterpriseListed <;> cases eol <;>
    simp [ProductSettings.isEnterprise, or_and_right]

/-- The products that the persona is shown. -/
def shown (gateway : Gateway) (eol : Bool) (remote : List String) : List String :=
  (offered gateway.settings.products eol remote).filter (gateway.persona.shows eol)

theorem outcome_products (gateway : Gateway) (eol : Bool) (answers : Answers) :
    (gateway.products eol).outcome answers = (answers (.products eol)).map fun remote =>
      gateway.persona.written (gateway.shown eol remote) := by
  unfold products reported
  rw [Action.outcome_noting, Action.outcome_bind, Action.outcome_get]
  cases answers (.products eol) with
  | error failure => rfl
  | ok remote => exact congrArg Except.ok (Persona.visibleProducts_eq ..)

theorem ascending_shown (gateway : Gateway) (eol : Bool) (remote : List String) :
    (gateway.shown eol remote).Pairwise fun a b => Text.byteOrder a b = .lt :=
  (Dict.ascending_distinct _).filter _

theorem mem_offered_of_shown (h : id ∈ gateway.shown eol remote) :
    id ∈ offered gateway.settings.products eol remote :=
  (List.mem_filter.mp h).1

theorem shows_of_shown (h : id ∈ gateway.shown eol remote) : gateway.persona.shows eol id = true :=
  (List.mem_filter.mp h).2

/-- Without `eol` only registered products are shown. -/
theorem exists_rules_of_shown (h : id ∈ gateway.shown false remote) :
    ∃ rules, Product.rules? id = some rules ∧
      (gateway.persona = .trial → rules.offTrial = false) := by
  have shows := shows_of_shown h
  cases known : Product.rules? id with
  | none =>
    cases persona : gateway.persona <;> rw [persona] at shows <;>
      simp [Persona.shows, Product.registered, Product.hasOpenSource, known] at shows
  | some rules =>
    refine ⟨rules, rfl, fun trial => ?_⟩
    rw [trial] at shows
    simpa [Persona.shows, Product.registered, Product.offTrial, known] using shows

/-- Without `eol` the bundle is shown to nobody. -/
theorem platform_not_shown : platformProduct ∉ gateway.shown false remote := by
  intro shown
  obtain ⟨rules, known, -⟩ := exists_rules_of_shown shown
  cases known

/-- What is listed of the products that the remote catalog has. No id stands twice in it, as long
as the bundle is not itself among the products that it is added to. -/
structure Lists (gateway : Gateway) (eol : Bool) (remote listed : List String) : Prop where
  listed_eq : listed = gateway.persona.written (gateway.shown eol remote)
  ascending : (gateway.shown eol remote).Pairwise fun a b => Text.byteOrder a b = .lt
  opensource_nodup : gateway.persona = .opensource → listed.Nodup
  commercial_nodup : gateway.persona = .commercial →
    eol = false ∨ platformProduct ∉ offered gateway.settings.products eol remote → listed.Nodup
  platform_mem : gateway.persona = .commercial → platformProduct ∈ listed
  enterprise_hidden : gateway.settings.products.enterpriseListed = false →
    ∀ id ∈ gateway.settings.products.enterprise, id ∉ gateway.shown eol remote
  supported : eol = false → ∀ id ∈ gateway.shown eol remote,
    ∃ rules, Product.rules? id = some rules ∧
      (gateway.persona = .trial →
        rules.offTrial = false ∧ Product.label id = id ++ ":" ++ rules.title)

/-- A listing that succeeds is of the products that the remote catalog, the store and the settings
have, less those that are hidden. -/
theorem lists_of_products {listed : List String}
    (h : (gateway.products eol).outcome answers = .ok listed) :
    ∃ remote, answers (.products eol) = .ok remote ∧ gateway.Lists eol remote listed := by
  rw [outcome_products] at h
  cases asked : answers (.products eol) with
  | error failure =>
    rw [asked] at h
    cases h
  | ok remote =>
    rw [asked] at h
    cases h
    have once := Text.nodup_of_ascending (gateway.ascending_shown eol remote)
    refine ⟨remote, rfl, rfl, gateway.ascending_shown eol remote, ?_, ?_, ?_, ?_, ?_⟩
    · intro opensource
      rw [opensource]
      exact once
    · intro commercial apart
      have absent : platformProduct ∉ gateway.shown eol remote := by
        obtain rfl | unoffered := apart
        · exact platform_not_shown
        · exact fun shown => unoffered (mem_offered_of_shown shown)
      rw [commercial]
      refine List.nodup_append.mpr ⟨once, by simp, ?_⟩
      rintro id shown _ last rfl
      exact absent (List.mem_singleton.mp last ▸ shown)
    · intro commercial
      rw [commercial]
      exact List.mem_append_right _ (List.mem_singleton_self _)
    · intro hidden id enterprise shown
      exact (mem_offered_iff.mp (mem_offered_of_shown shown)).2 hidden enterprise
    · rintro rfl id shown
      obtain ⟨rules, known, offTrial⟩ := exists_rules_of_shown shown
      refine ⟨rules, known, fun trial => ⟨offTrial trial, ?_⟩⟩
      rw [Product.label, known]

/-- A gateway that does not list its enterprise products. -/
def discreet (persona : Persona) (enterprise : List String) : Gateway :=
  ⟨{ gate := { persona }, products := { enterprise, enterpriseListed := false } }, ""⟩

/-- A remote catalog that has some products. -/
def stocked (products : List String) : Answers
  | .products _ => .ok products
  | _ => .error .noCandidates

/-- A trial is shown neither what is left out of trials, nor what is hidden, nor what is not
registered, and nothing twice. -/
theorem lists_of_discreet_trial :
    let remote := ["manage", "inspec", "chef", "chef", "push-jobs"]
    let listed := ["automate:Chef Automate", "chef:Chef Infra Client", "habitat:Chef Habitat"]
    ((discreet .trial ["inspec"]).products false).outcome (stocked remote) = .ok listed ∧
      (discreet .trial ["inspec"]).Lists false remote listed := by
  intro remote listed
  have ended : ((discreet .trial ["inspec"]).products false).outcome (stocked remote) =
    .ok listed := rfl
  obtain ⟨_, asked, lists⟩ := lists_of_products ended
  cases asked
  exact ⟨ended, lists⟩

/-- The bundle is added to what a commercial persona is shown, whether or not it is an enterprise
product that is to be hidden, and whether or not it is there already. -/
theorem platform_added_regardless :
    (∃ listed, ((discreet .commercial [platformProduct]).products false).outcome
        (stocked ["chef"]) = .ok listed ∧ platformProduct ∈ listed) ∧
    ∃ listed, ((plain .commercial).products true).outcome (stocked ["chef", platformProduct]) =
      .ok listed ∧ ¬ listed.Nodup :=
  ⟨⟨["automate", "chef", "habitat", "chef-360"], rfl, by decide⟩,
    ["automate", "automate-1", "chef", "chef-360", "chef-ice", "habitat", "migrate-ice",
      "chef-360"], rfl, by decide⟩

end Gateway

end ReleaseGate
