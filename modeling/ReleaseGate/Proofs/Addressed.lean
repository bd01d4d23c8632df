import ReleaseGate.Proofs.Link
import ReleaseGate.Service.Catalog

/-! Where a call to the remote catalog goes, and what the name of a product has to do with it. -/

namespace ReleaseGate.Service.Catalog

/-- What an address names below its base. -/
structure Location where
  segments : List String
  query : Option String
  fragment : Option String
  deriving DecidableEq, Repr

namespace Location

/-- The fragment follows the first hash, the query the first question mark before it, and slashes
part what is before both. -/
def ofText (text : List Char) : Location where
  segments := (Text.pieces '/' (Text.cut '?' (Text.cut '#' text).1).1).map String.ofList
  query := (Text.cut '?' (Text.cut '#' text).1).2.map String.ofList
  fragment := (Text.cut '#' text).2.map String.ofList

/-- A text that leads nowhere but to itself. -/
theorem ofText_eq_singleton_iff {text : List Char} {segment : String} :
    ofText text = ⟨[segment], none, none⟩ ↔
      '/' ∉ text ∧ '?' ∉ text ∧ '#' ∉ text ∧ segment = String.ofList text := by
  unfold ofText
  rw [mk.injEq]
  constructor
  · rintro ⟨alone, unasked, unhashed⟩
    obtain ⟨hash, whole⟩ | ⟨front, rest, -, -, split⟩ := Text.cut_spec '#' text
    · rw [whole] at alone unasked
      obtain ⟨mark, path⟩ | ⟨front, rest, -, -, split⟩ := Text.cut_spec '?' text
      · rw [path] at alone
        obtain ⟨piece, pieces, rfl⟩ := List.map_eq_singleton_iff.mp alone
        obtain ⟨slash, rfl⟩ := Text.pieces_eq_singleton_iff.mp pieces
        exact ⟨slash, mark, hash, rfl⟩
      · simp [split] at unasked
    · simp [split] at unhashed
  · rintro ⟨slash, mark, hash, rfl⟩
    simp [Text.cut_eq_self hash, Text.cut_eq_self mark, Text.pieces_eq_self slash]

/-- The location in the part of the catalog that is for the channel. -/
def within (channel : Channel) (location : Location) : Location :=
  { location with segments := "" :: channel.name :: location.segments }

theorem ofText_within (channel : Channel) (text : List Char) :
    ofText ('/' :: channel.name.toList ++ '/' :: text) = (ofText text).within channel := by
  have name := Request.not_mem_channel channel
  have unasked : '?' ∉ '/' :: channel.name.toList ++ ['/'] := by simp [name]
  have unhashed : '#' ∉ '/' :: channel.name.toList ++ ['/'] := by simp [name]
  have pieces (path : List Char) : Text.pieces '/' ('/' :: (channel.name.toList ++ '/' :: path)) =
      [] :: channel.name.toList :: Text.pieces '/' path := by
    rw [Text.pieces, if_pos rfl, Text.pieces_append name.1]
  unfold ofText within
  rw [List.append_cons, Text.cut_append_right unhashed, Text.cut_append_right unasked]
  simp [pieces]

theorem within_inj {channel : Channel} {location other : Location} :
    location.within channel = other.within channel ↔ location = other := by
  obtain ⟨_, _, _⟩ := location
  obtain ⟨_, _, _⟩ := other
  simp [within]

end Location

/-- What an address names below `base`, if it begins with it. -/
def located? (base url : String) : Option Location :=
  ((Text.withoutEndSlashes base).toList.isPrefixOf? url.toList).map Location.ofText

/-- What the catalog is asked about a product. -/
inductive Inquiry where
  | latest
  | versions
  | packages (version : String)
  | metadata (version platform platformVersion architecture : String)
  deriving DecidableEq, Repr

namespace Inquiry

def call (base : String) (channel : Channel) (product : String) : Inquiry → Http.Call
  | latest => (latestVersion base channel product).call
  | versions => (Catalog.versions base channel product).call
  | packages version => (Catalog.packages base channel product version).call
  | metadata version platform platformVersion architecture =>
    (Catalog.metadata base channel product version platform platformVersion architecture).call

def segments : Inquiry → List String
  | latest => ["versions", "latest"]
  | versions => ["versions", "all"]
  | packages _ => ["packages"]
  | metadata .. => ["metadata"]

def pairs : Inquiry → Option (List (String × String))
  | latest | versions => none
  | packages version => some [("v", version)]
  | metadata version platform platformVersion architecture =>
    some [("v", version), ("p", platform), ("pv", platformVersion), ("m", architecture)]

def query (inquiry : Inquiry) : Option String := inquiry.pairs.map Text.Percent.query

/-- The address without the product and what is before it. -/
def tail (inquiry : Inquiry) : String :=
  "/" ++ "/".intercalate inquiry.segments ++ (inquiry.query.map ("?" ++ ·)).getD ""

/-- Where the address leads when the product is one segment, whatever it is called. -/
def own (inquiry : Inquiry) (product : String) : Location :=
  ⟨Text.Percent.encode product :: inquiry.segments, inquiry.query, none⟩

/-- What is asked, behind a location, becomes part of whatever the location ends in. -/
def behind (inquiry : Inquiry) : Location → Location
  | ⟨segments, none, none⟩ => ⟨segments ++ inquiry.segments, inquiry.query, none⟩
  | ⟨segments, some query, none⟩ => ⟨segments, some (query ++ inquiry.tail), none⟩
  | ⟨segments, query, some fragment⟩ => ⟨segments, query, some (fragment ++ inquiry.tail)⟩

variable (inquiry : Inquiry) (base : String) (channel : Channel) (product : String)

theorem toList_url : (inquiry.call base channel product).url.toList =
    (Text.withoutEndSlashes base).toList ++
      ('/' :: channel.name.toList ++ '/' :: (product.toList ++ inquiry.tail.toList)) := by
  cases inquiry <;>
    simp [call, latestVersion, Catalog.versions, Catalog.packages, Catalog.metadata, fetch,
      Http.Exchange.document, url, latestPath, versionsPath, packagesPath, metadataPath,
      productPath, tail, segments, query, pairs]

theorem toList_tail : inquiry.tail.toList =
    '/' :: ['/'].intercalate (inquiry.segments.map String.toList) ++
      (inquiry.query.map ('?' :: ·.toList)).getD [] := by
  unfold tail
  cases inquiry.query <;> simp [String.toList_intercalate]

/-- The query holds no slash and no hash. -/
theorem not_mem_query {text : String} (h : inquiry.query = some text) :
    '/' ∉ text.toList ∧ '#' ∉ text.toList := by
  obtain ⟨pairs, named, rfl⟩ := Option.map_eq_some_iff.mp h
  have keys : ∀ pair ∈ pairs, '/' ∉ pair.1.toList ∧ '#' ∉ pair.1.toList := by
    cases inquiry <;> cases named <;> simp
  exact ⟨Request.not_mem_query (by decide) (by decide) (by decide) fun pair h => (keys pair h).1,
    Request.not_mem_query (by decide) (by decide) (by decide) fun pair h => (keys pair h).2⟩

/-- The fixed segments are parted by their slashes and by nothing else. -/
theorem path_plain :
    let path := ['/'].intercalate (inquiry.segments.map String.toList)
    '?' ∉ path ∧ '#' ∉ path ∧ Text.pieces '/' path = inquiry.segments.map String.toList := by
  cases inquiry <;> simp only [segments] <;> decide

theorem not_hash_mem_tail : '#' ∉ inquiry.tail.toList := by
  obtain ⟨-, path, -⟩ := inquiry.path_plain
  rw [toList_tail]
  cases asked : inquiry.query with
  | none => simp [path]
  | some text => simp [path, (inquiry.not_mem_query asked).2]

theorem cut_tail : Text.cut '?' inquiry.tail.toList =
    ('/' :: ['/'].intercalate (inquiry.segments.map String.toList),
      inquiry.query.map String.toList) := by
  have path : '?' ∉ '/' :: ['/'].intercalate (inquiry.segments.map String.toList) := by
    simp [inquiry.path_plain.1]
  rw [toList_tail]
  cases inquiry.query with
  | none => simpa using Text.cut_eq_self path
  | some text => exact Text.cut_append path text.toList

/-- What is asked becomes part of the last thing that the product's text begins. -/
theorem ofText_append_tail (text : List Char) :
    Location.ofText (text ++ inquiry.tail.toList) = inquiry.behind (Location.ofText text) := by
  unfold Location.ofText
  obtain ⟨whole, uncut⟩ | ⟨front, rest, before, rfl, split⟩ := Text.cut_spec '#' text
  · have unhashed : '#' ∉ text ++ inquiry.tail.toList := by
      simp [whole, inquiry.not_hash_mem_tail]
    rw [uncut, Text.cut_eq_self unhashed]
    obtain ⟨path, unasked⟩ | ⟨path, query, before, rfl, split⟩ := Text.cut_spec '?' text
    · rw [unasked, Text.cut_append_right path, cut_tail]
      simp [behind, Text.pieces_append_cons, inquiry.path_plain.2.2, Function.comp_def]
    · rw [split, List.append_assoc, List.cons_append, Text.cut_append before]
      simp [behind]
  · rw [split, List.append_assoc, List.cons_append, Text.cut_append before]
    cases (Text.cut '?' front).2 <;> simp [behind]

/-- The product is one segment of its own only if none of its characters has to be encoded. -/
theorem behind_eq_own_iff (product : String) :
    inquiry.behind (Location.ofText product.toList) = inquiry.own product ↔
      ∀ c ∈ product.toList, Text.Percent.Unreserved c := by
  rw [← Text.Percent.encode_eq_self_iff]
  constructor
  · intro same
    cases named : Location.ofText product.toList with
    | mk segments query fragment =>
      rw [named] at same
      unfold own at same
      match query, fragment with
      | none, none =>
        simp only [behind, Location.mk.injEq, and_true] at same
        have alone : segments = [Text.Percent.encode product] :=
          List.append_cancel_right (same.trans (List.singleton_append ..).symm)
        rw [alone, Location.ofText_eq_singleton_iff, String.ofList_toList] at named
        exact named.2.2.2
      | some query, none =>
        simp only [behind, Location.mk.injEq] at same
        have apart := (inquiry.not_mem_query same.2.1.symm).1
        simp [toList_tail] at apart
      | none, some fragment | some query, some fragment => simp [behind] at same
  · intro plain
    have unreserved := Text.Percent.encode_eq_self_iff.mp plain
    have apart {c : Char} (reserved : ¬ Text.Percent.Unreserved c) : c ∉ product.toList :=
      fun there => reserved (unreserved c there)
    have alone : Location.ofText product.toList = ⟨[product], none, none⟩ := by
      rw [Location.ofText_eq_singleton_iff]
      exact ⟨apart (by decide), apart (by decide), apart (by decide), by simp⟩
    rw [alone, own, plain]
    rfl

/-- A call goes where the product's own text leads, with what is asked behind it. -/
theorem located?_call :
    located? base (inquiry.call base channel product).url =
      some ((inquiry.behind (Location.ofText product.toList)).within channel) := by
  have rest := (Text.isPrefixOf?_eq_some_iff _).mpr (inquiry.toList_url base channel product)
  unfold located?
  rw [rest, Option.map_some, Location.ofText_within, ofText_append_tail]

end Inquiry

/-- A call about a product goes to its channel, and from there where the text of the product leads.
That is the product's own place exactly when no character of the product has to be encoded, and then
no other such product has the same path. -/
theorem product_own_iff (inquiry : Inquiry) (base : String) (channel : Channel) (product : String) :
    located? base (inquiry.call base channel product).url =
      some ((inquiry.behind (Location.ofText product.toList)).within channel) ∧
    (located? base (inquiry.call base channel product).url =
        some ((inquiry.own product).within channel) ↔
      ∀ c ∈ product.toList, Text.Percent.Unreserved c) ∧
    ∀ other : String, (∀ c ∈ product.toList, Text.Percent.Unreserved c) →
      (∀ c ∈ other.toList, Text.Percent.Unreserved c) →
      (located? base (inquiry.call base channel product).url).map (·.segments) =
        (located? base (inquiry.call base channel other).url).map (·.segments) →
      product = other := by
  refine ⟨inquiry.located?_call base channel product, ?_, ?_⟩
  · rw [inquiry.located?_call, Option.some_inj, Location.within_inj, inquiry.behind_eq_own_iff]
  · intro other plain also same
    rw [inquiry.located?_call, inquiry.located?_call, (inquiry.behind_eq_own_iff product).mpr plain,
      (inquiry.behind_eq_own_iff other).mpr also] at same
    simp only [Inquiry.own, Location.within, Option.map_some, Option.some.injEq,
      List.cons.injEq, and_true, true_and] at same
    exact Text.Percent.encode_injective same

/-- The name of a product takes a call to where another product is asked about. -/
theorem product_walks_elsewhere :
    located? "http://up" (Inquiry.versions.call "http://up" .stable "chef/../habitat").url ≠
        some ((Inquiry.versions.own "chef/../habitat").within .stable) ∧
      (Inquiry.versions.call "http://up" .stable "chef/../habitat").message =
        (Inquiry.versions.call "http://up" .stable "habitat").message := by
  constructor
  · decide +kernel
  · decide +kernel

end ReleaseGate.Service.Catalog
