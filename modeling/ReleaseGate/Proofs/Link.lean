import ReleaseGate.Dict
import ReleaseGate.Proofs.Percent
import ReleaseGate.Proofs.Pieces
import ReleaseGate.Request

/-! A download link says all of the request that it was made for. -/

namespace ReleaseGate.Request

/-- The key and the value in a piece of a query. -/
def pairOf? (piece : List Char) : Option (String × String) := do
  let (key, value) := Text.cut '=' piece
  return (String.ofList key, ← Text.Percent.decode? (String.ofList (value.getD [])))

def pairsOf? : Option (List Char) → Option (List (String × String))
  | none => some []
  | some query => (Text.pieces '&' query).mapM pairOf?

/-- The request that names these values. What is not named is left out. -/
def ofPairs (channel : Channel) (product : String) (pairs : List (String × String)) : Request where
  channel := channel
  product := product
  version := (pairs.lookup "v").getD ""
  platform := (pairs.lookup "p").getD ""
  platformVersion := (pairs.lookup "pv").getD ""
  architecture := (pairs.lookup "m").getD ""
  packageManager := (pairs.lookup "pm").getD ""
  licenseId := (pairs.lookup "license_id").getD ""
  eol := (pairs.lookup "eol").getD "" = "true"

/-- The channel and the product in the path of a download link. -/
def ofPath? (path : List Char) : Option (Channel × String) :=
  match Text.pieces '/' path with
  | [[], channel, product, last] =>
    if String.ofList last = "download" then do
      let channel ← (Channel.ofName (String.ofList channel)).toOption
      return (channel, ← Text.Percent.decode? (String.ofList product))
    else none
  | _ => none

/-- The request that a download link on the gateway at `base` stands for. -/
def ofLink? (base url : String) : Option Request := do
  let rest ← (Text.withoutEndSlashes base).toList.isPrefixOf? url.toList
  let (path, query) := Text.cut '?' rest
  let (channel, product) ← ofPath? path
  return ofPairs channel product (← pairsOf? query)

/-- The text of a pair in a query. -/
def pairText (pair : String × String) : List Char :=
  pair.1.toList ++ '=' :: (Text.Percent.encode pair.2).toList

theorem pairOf?_pairText {pair : String × String} (h : '=' ∉ pair.1.toList) :
    pairOf? (pairText pair) = some pair := by
  unfold pairOf? pairText
  rw [Text.cut_append h]
  simp [Text.Percent.decode?_encode]

theorem toList_query (pairs : List (String × String)) :
    (Text.Percent.query pairs).toList = ['&'].intercalate (pairs.map pairText) := by
  unfold Text.Percent.query
  rw [String.toList_intercalate, List.map_map]
  congr 1
  apply List.map_congr_left
  intro pair _
  simp [pairText]

theorem not_mem_pairText {pair : String × String} {c : Char} (mark : c ∈ Text.Percent.separators)
    (inside : c ≠ '=') (key : c ∉ pair.1.toList) : c ∉ pairText pair := by
  unfold pairText
  rw [List.mem_append, List.mem_cons]
  rintro (here | same | value)
  · exact key here
  · exact inside same
  · exact Text.Percent.not_separator_of_mem_encode value mark

/-- No separators are in a query but those between its pairs and inside them. -/
theorem not_mem_query {pairs : List (String × String)} {c : Char}
    (mark : c ∈ Text.Percent.separators) (between : c ≠ '&') (inside : c ≠ '=')
    (keys : ∀ pair ∈ pairs, c ∉ pair.1.toList) : c ∉ (Text.Percent.query pairs).toList := by
  rw [toList_query]
  induction pairs with
  | nil => simp
  | cons pair pairs ih =>
    obtain ⟨key, later⟩ := List.forall_mem_cons.mp keys
    have first := not_mem_pairText mark inside key
    cases pairs with
    | nil => simpa using first
    | cons next rest =>
      rw [List.map_cons, List.map_cons, List.intercalate_cons_cons, ← List.map_cons,
        List.mem_append, List.mem_append, List.mem_singleton]
      rintro ((here | same) | there)
      · exact first here
      · exact between same
      · exact ih later there

theorem mapM_pairOf? {pairs : List (String × String)} (h : ∀ pair ∈ pairs, '=' ∉ pair.1.toList) :
    (pairs.map pairText).mapM pairOf? = some pairs := by
  induction pairs with
  | nil => rfl
  | cons pair pairs ih =>
    have first := pairOf?_pairText (h pair List.mem_cons_self)
    have later := ih fun pair hpair => h pair (List.mem_cons_of_mem _ hpair)
    rw [List.map_cons, List.mapM_cons, first, later]
    rfl

/-- The pairs of a query are read back when no key holds a separator. -/
theorem pairsOf?_query {pairs : List (String × String)} (filled : pairs ≠ [])
    (h : ∀ pair ∈ pairs, '=' ∉ pair.1.toList ∧ '&' ∉ pair.1.toList) :
    pairsOf? (some (Text.Percent.query pairs).toList) = some pairs := by
  have apart : ∀ piece ∈ pairs.map pairText, '&' ∉ piece := by
    intro piece hpiece
    obtain ⟨pair, hpair, rfl⟩ := List.mem_map.mp hpiece
    exact not_mem_pairText (by decide) (by decide) (h pair hpair).2
  unfold pairsOf?
  rw [toList_query]
  simp only
  rw [Text.pieces_intercalate (by simpa using filled) apart]
  exact mapM_pairOf? fun pair hpair => (h pair hpair).1

/-- All that a link can say, what the caller left out included. -/
def allPairs (request : Request) : List (String × String) :=
  [("v", request.version), ("p", request.platform), ("pv", request.platformVersion),
    ("m", request.architecture), ("pm", request.packageManager),
    ("eol", if request.eol then "true" else ""), ("license_id", request.licenseId)]

theorem queryPairs_eq (request : Request) :
    request.queryPairs = request.allPairs.filter (·.2 ≠ "") := by
  unfold queryPairs allPairs
  rw [show [("v", request.version), ("p", request.platform), ("pv", request.platformVersion),
      ("m", request.architecture), ("pm", request.packageManager),
      ("eol", if request.eol then "true" else ""), ("license_id", request.licenseId)] =
    [("v", request.version), ("p", request.platform), ("pv", request.platformVersion),
      ("m", request.architecture), ("pm", request.packageManager)] ++
    [("eol", if request.eol then "true" else "")] ++ [("license_id", request.licenseId)] from rfl,
    List.filter_append, List.filter_append]
  congr 1
  · congr 1
    cases request.eol <;> rfl
  · by_cases free : request.licenseId = "" <;> simp [free]

/-- A key that stands once has its value, or none if that is empty. -/
theorem lookup_filter_filled {pairs : List (String × String)} (h : (pairs.map (·.1)).Nodup)
    (key : String) :
    ((pairs.filter (·.2 ≠ "")).lookup key).getD "" = (pairs.lookup key).getD "" := by
  induction pairs with
  | nil => rfl
  | cons pair pairs ih =>
    obtain ⟨name, value⟩ := pair
    rw [List.map_cons, List.nodup_cons] at h
    by_cases empty : value = ""
    · rw [List.filter_cons_of_neg (by simp [empty]), ih h.2, Dict.lookup_cons]
      split
      · rename_i same
        have absent : pairs.lookup key = none := by
          rw [List.lookup_eq_none_iff]
          intro pair hpair
          rw [bne_iff_ne]
          intro equal
          exact h.1 (List.mem_map.mpr ⟨pair, hpair, equal.symm.trans same⟩)
        rw [absent, empty]
        rfl
      · rfl
    · rw [List.filter_cons_of_pos (by simp [empty]), Dict.lookup_cons, Dict.lookup_cons]
      split
      · rfl
      · exact ih h.2

theorem nodup_allPairs (request : Request) : (request.allPairs.map (·.1)).Nodup := by
  simp only [allPairs, List.map_cons, List.map_nil]
  decide

theorem ofPairs_queryPairs (request : Request) :
    ofPairs request.channel request.product request.queryPairs = request := by
  simp only [ofPairs, queryPairs_eq, lookup_filter_filled (nodup_allPairs request)]
  cases request with
  | mk channel product version platform platformVersion architecture packageManager licenseId eol =>
    cases eol <;> rfl

/-- No key of a link holds a character that parts a query. -/
theorem not_separator_of_key {request : Request} {pair : String × String}
    (h : pair ∈ request.queryPairs) : '=' ∉ pair.1.toList ∧ '&' ∉ pair.1.toList := by
  rw [queryPairs_eq] at h
  have key : pair.1 ∈ ["v", "p", "pv", "m", "pm", "eol", "license_id"] :=
    List.mem_map_of_mem (List.mem_filter.mp h).1
  have apart : ∀ key ∈ ["v", "p", "pv", "m", "pm", "eol", "license_id"],
      '=' ∉ key.toList ∧ '&' ∉ key.toList := by decide
  exact apart _ key

/-- The path of a link below the gateway. -/
def pathText (request : Request) : List Char :=
  ['/'].intercalate [[], request.channel.name.toList, (Text.Percent.encode request.product).toList,
    "download".toList]

theorem not_mem_channel (channel : Channel) :
    '/' ∉ channel.name.toList ∧ '?' ∉ channel.name.toList ∧ '#' ∉ channel.name.toList := by
  cases channel <;> simp [Channel.name]

theorem ofName_name : ∀ (channel : Channel), Channel.ofName channel.name = .ok channel
  | .stable => rfl
  | .current => rfl

theorem ofPath?_pathText (request : Request) :
    ofPath? request.pathText = some (request.channel, request.product) := by
  have apart : ∀ part ∈ [[], request.channel.name.toList,
      (Text.Percent.encode request.product).toList, "download".toList], '/' ∉ part := by
    simp only [List.mem_cons, List.not_mem_nil, or_false]
    rintro part (rfl | rfl | rfl | rfl)
    · simp
    · exact (not_mem_channel _).1
    · exact fun h => Text.Percent.not_separator_of_mem_encode h (by decide)
    · decide
  unfold ofPath? pathText
  rw [Text.pieces_intercalate (by simp) apart]
  simp [ofName_name, Text.Percent.decode?_encode, Except.toOption]

theorem not_mem_pathText (request : Request) : '?' ∉ request.pathText := by
  have channel := (not_mem_channel request.channel).2.1
  have product : '?' ∉ (Text.Percent.encode request.product).toList :=
    fun h => Text.Percent.not_separator_of_mem_encode h (by decide)
  simp [pathText, channel, product]

theorem query_eq_empty_iff {pairs : List (String × String)} :
    Text.Percent.query pairs = "" ↔ pairs = [] := by
  rw [← String.toList_inj, toList_query]
  cases pairs with
  | nil => simp
  | cons pair pairs => cases pairs <;> simp [pairText]

/-- A link is the place of the gateway, the path and, if there is one, the query. -/
theorem toList_link (request : Request) (base : String) :
    (request.link base).toList = (Text.withoutEndSlashes base).toList ++ (request.pathText ++
      if request.queryPairs = [] then [] else
        '?' :: (Text.Percent.query request.queryPairs).toList) := by
  simp only [link, query_eq_empty_iff]
  split
  · simp [pathText]
  · simp [pathText]

/-- The query of a link comes off its path, and its pairs are read back. -/
theorem cut_link (request : Request) :
    ∃ query, Text.cut '?' (request.pathText ++ if request.queryPairs = [] then [] else
        '?' :: (Text.Percent.query request.queryPairs).toList) = (request.pathText, query) ∧
      pairsOf? query = some request.queryPairs := by
  have unasked := not_mem_pathText request
  by_cases bare : request.queryPairs = []
  · refine ⟨none, ?_, by rw [bare]; rfl⟩
    rw [if_pos bare, List.append_nil, Text.cut_eq_self unasked]
  · refine ⟨_, ?_, pairsOf?_query bare fun _ hpair => not_separator_of_key hpair⟩
    rw [if_neg bare, Text.cut_append unasked]

/-- The request is read back from its link. -/
theorem ofLink?_link (request : Request) (base : String) :
    ofLink? base (request.link base) = some request := by
  have rest := (Text.isPrefixOf?_eq_some_iff _).mpr (toList_link request base)
  obtain ⟨query, apart, pairs⟩ := cut_link request
  unfold ofLink?
  rw [rest]
  simp [apart, ofPath?_pathText, pairs, ofPairs_queryPairs]

/-- The pairs in the query of a download link on the gateway at `base`. -/
def pairsOfLink? (base url : String) : Option (List (String × String)) := do
  let rest ← (Text.withoutEndSlashes base).toList.isPrefixOf? url.toList
  pairsOf? (Text.cut '?' rest).2

theorem pairsOfLink?_link (request : Request) (base : String) :
    pairsOfLink? base (request.link base) = some request.queryPairs := by
  have rest := (Text.isPrefixOf?_eq_some_iff _).mpr (toList_link request base)
  obtain ⟨query, apart, pairs⟩ := cut_link request
  unfold pairsOfLink?
  rw [rest]
  simp [apart, pairs]

/-- The query names what is filled in the request, and nothing else. -/
theorem lookup_queryPairs (request : Request) (key value : String) :
    request.queryPairs.lookup key = some value ↔
      value ≠ "" ∧ (key, value) ∈ request.allPairs := by
  have once : (request.queryPairs.map (·.1)).Nodup := by
    rw [queryPairs_eq]
    exact (List.filter_sublist.map _).nodup (nodup_allPairs request)
  rw [Dict.lookup_eq_some_iff_mem once, queryPairs_eq, List.mem_filter, and_comm]
  simp

/-- No two requests have the same link. -/
theorem link_injective (base : String) :
    Function.Injective fun request : Request => request.link base := by
  intro request other same
  have read := ofLink?_link request base
  rw [show request.link base = other.link base from same, ofLink?_link] at read
  exact (Option.some.inj read).symm

/-- A download link says all of its request: what is filled stands in the path or under its own key
in the query, what is not named was left out, and no two requests have the same link. -/
theorem link_says_all (base : String) :
    (∀ request : Request, ofLink? base (request.link base) = some request ∧
      ∃ pairs, pairsOfLink? base (request.link base) = some pairs ∧
        ∀ key value, pairs.lookup key = some value ↔
          value ≠ "" ∧ (key, value) ∈ request.allPairs) ∧
    Function.Injective fun request : Request => request.link base := by
  refine ⟨fun request => ⟨ofLink?_link request base, ?_⟩, link_injective base⟩
  exact ⟨request.queryPairs, pairsOfLink?_link request base, lookup_queryPairs request⟩

end ReleaseGate.Request
