import ReleaseGate.Proofs.LicensedUrl
import ReleaseGate.Proofs.Stages
import ReleaseGate.Supply.Records

/-! What a file is called, and where it is fetched from: both go by one name. -/

namespace ReleaseGate.Supply

variable {request : Request} {answers : Answers}

theorem outcome_named (name : String) : (named name).outcome answers =
    if name = "" then .error unnamedFile else .ok name := by
  unfold named
  split <;> rfl

namespace Records

/-- A file is fetched from where its name leads below a place that does not depend on the name. -/
theorem outcome_download_eq (table : Store.Table Store.FileRelease) (root : String) :
    (download table root request).outcome answers =
      ((fileName table request).outcome answers).map fun name =>
        .redirect (url root (lookup request) name) := by
  unfold download fileName
  simp only [Action.outcome_bind, outcome_named]
  cases (Records.file table request).outcome answers with
  | error failure => rfl
  | ok file =>
    dsimp only [Except.bind]
    split <;> rfl

end Records

namespace Remote

/-- A license changes nothing in the last segment of a url's path. -/
theorem fileNameOf_withLicense (url license : String) :
    fileNameOf (withLicense url license) = fileNameOf url := by
  by_cases filled : license = ""
  · rw [withLicense, if_pos filled]
  · unfold fileNameOf
    rw [toList_withLicense filled, List.takeWhile_append]
    split
    · rename_i whole
      have path : url.toList.takeWhile (fun c => c != '?' && c != '#') = url.toList :=
        (List.takeWhile_prefix _).eq_of_length whole
      have unasked : '?' ∉ url.toList := by
        intro asked
        rw [← path] at asked
        simpa using List.all_eq_true.mp List.all_takeWhile '?' asked
      have joined : (joint url).toList = ['?'] := by
        rw [joint, if_neg unasked]
        rfl
      rw [path, joined]
      simp
    · rfl

theorem outcome_fileName : (fileName request).outcome answers =
    ((metadata request).outcome answers).bind fun record =>
      if fileNameOf record.url = "" then .error unnamedFile else .ok (fileNameOf record.url) := by
  unfold fileName
  simp only [Action.outcome_bind, outcome_named]

theorem outcome_download (license : String) :
    (download { request with licenseId := license }).outcome answers =
      ((metadata request).outcome answers).bind fun record =>
        if record.url = "" then .error unnamedFile
        else .ok (.redirect (withLicense record.url license)) := by
  have same : metadata { request with licenseId := license } = metadata request := rfl
  unfold download
  rw [same, Action.outcome_bind]
  congr 1
  funext record
  split
  · rfl
  · split <;> rfl

/-- A url that ends its path with a name is there. -/
theorem ne_empty_of_fileNameOf {url : String} (filled : fileNameOf url ≠ "") : url ≠ "" := by
  rintro rfl
  exact filled rfl

/-- What is named is fetched from a url that goes by that name, whatever the license. -/
theorem exists_url_of_fileName {name : String}
    (named : (fileName request).outcome answers = .ok name) (license : String) :
    ∃ url, (download { request with licenseId := license }).outcome answers =
      .ok (.redirect url) ∧ fileNameOf url = name := by
  rw [outcome_fileName] at named
  rw [outcome_download]
  cases found : (metadata request).outcome answers with
  | error failure =>
    rw [found] at named
    cases named
  | ok record =>
    simp only [found, Except.bind] at named ⊢
    split at named
    · cases named
    · rename_i filled
      cases named
      exact ⟨_, if_neg (ne_empty_of_fileNameOf filled), fileNameOf_withLicense record.url license⟩

theorem outcomes_of_unfound {failure : Failure}
    (unfound : (metadata request).outcome answers = .error failure) (license : String) :
    (fileName request).outcome answers = .error failure ∧
      (download { request with licenseId := license }).outcome answers = .error failure := by
  rw [outcome_fileName, outcome_download, unfound]
  exact ⟨rfl, rfl⟩

theorem outcomes_of_empty {record : Package.Record}
    (found : (metadata request).outcome answers = .ok record) (empty : record.url = "")
    (license : String) : (fileName request).outcome answers = .error unnamedFile ∧
      (download { request with licenseId := license }).outcome answers = .error unnamedFile := by
  rw [outcome_fileName, outcome_download, found]
  dsimp only [Except.bind]
  rw [empty]
  exact ⟨rfl, rfl⟩

end Remote

namespace Bucket

open Store (ManagedRelease Table)

variable {table : Table ManagedRelease} {settings : ObjectSettings}

/-- Joined parts end with the last one, even if it is empty and so left out. -/
theorem last_suffix_joined (parts : List String) (last : String) :
    last.toList <:+ ("/".intercalate ((parts ++ [last]).filter (· ≠ ""))).toList := by
  by_cases empty : last = ""
  · rw [empty]
    exact List.nil_suffix
  · have joined := Text.intercalate_append_last "/".toList
      ((parts.filter (· ≠ "")).map String.toList) [] last.toList
    rw [List.filter_append, List.filter_cons_of_pos (by simpa using empty), List.filter_nil,
      String.toList_intercalate, List.map_append, List.map_singleton]
    rw [List.nil_append] at joined
    rw [joined]
    exact List.suffix_append _ _

theorem name_suffix_key (settings : ObjectSettings) (request : Request) (filename : String) :
    (Text.withoutOuterSlashes filename).toList <:+ (key settings request filename).toList :=
  last_suffix_joined ([channelPath settings request.channel, request.product, request.version,
    request.platform, request.architecture].map Text.withoutOuterSlashes) _

theorem ne_empty_of_fileName {name : String}
    (h : (fileName table request).outcome answers = .ok name) : name ≠ "" := by
  obtain ⟨file, -, h⟩ := Action.outcome_bind_eq_ok.mp h
  rw [outcome_named] at h
  split at h
  · cases h
  · rename_i filled
    cases h
    exact filled

/-- With complete settings a download fails as the name does. -/
theorem outcome_download_of_error (filled : settings.lacking = []) {failure : Failure}
    (unnamed : (fileName table request).outcome answers = .error failure) :
    (download table settings request).outcome answers = .error failure := by
  unfold download
  rw [Action.outcome_bind, Action.outcome_noting, check_of_filled filled, Action.outcome_ofExcept]
  dsimp only [Except.bind]
  rw [Action.outcome_bind, unnamed]
  rfl

/-- An object that came without a disposition is sent with one that names the file. -/
theorem header?_of_sent {object : Objects.Stored} {filename : String} {artifact : Artifact}
    (sent : Sent object filename artifact) : artifact.header? "content-disposition" =
      some (object.contentDisposition.getD ("attachment; filename=" ++ filename)) := by
  have name : Text.lowerAscii "content-disposition" = "content-disposition" := by decide +kernel
  unfold Artifact.header?
  rw [name, sent.headers, headersOf]
  cases object.contentType <;> cases object.contentLength <;> simp [Dict.lookup_cons]

/-- A download that succeeds asked for the object under the key of the file's name, and sends it. -/
theorem exists_name_of_download {outcome : Outcome}
    (got : (download table settings request).outcome answers = .ok outcome) :
    ∃ name session credentials object artifact,
      (fileName table request).outcome answers = .ok name ∧
      (Services.steady answers).asked (download table settings request) () =
        [.item table.name request.product request.version, .session settings.region,
          .assumeRole session settings.role,
          .object session credentials settings.bucket (key settings request name)] ∧
      answers (.object session credentials settings.bucket (key settings request name)) =
        .ok object ∧
      Sent object name artifact ∧ outcome = .stream artifact := by
  obtain ⟨calls, went, keeps, asked⟩ :=
    Action.calls_steady answers (download table settings request)
  rw [got] at went
  cases calls_download_iff.mp went with
  | @sent first rest name object artifact _ names brings sent =>
    have named : (fileName table request).outcome answers = .ok name := by
      refine Action.outcome_of_calls (calls_fileName_iff.mpr names) ?_
      exact fun query answer among => keeps query answer (List.mem_append_left _ among)
    obtain ⟨item, rfl⟩ := names.answer
    cases brings with
    | object session credentials object =>
      refine ⟨name, session, credentials, object, artifact, named, asked, ?_, sent, rfl⟩
      exact (keeps _ _ (by simp)).symm

end Bucket

open Store (FileRelease ManagedRelease Table)

/-- The name of a file and its download are of one file. A recorded file is fetched from where its
name leads, and both fail alike. A file of the remote catalog is fetched from a url that goes by
its name, whatever the license; without a record, or a url in it, both fail alike. A file that comes
from a bucket was asked for under a key that ends with its name, and is sent with the name unless it
came with another; with complete settings the download fails as the name does. -/
theorem names_agree (answers : Answers) (request : Request) :
    (∀ (table : Table FileRelease) (root : String), ∃ place : String,
      (Records.download table root request).outcome answers =
        ((Records.fileName table request).outcome answers).map fun name =>
          .redirect (place ++ "/" ++ name)) ∧
    (∀ license : String,
      let found := (Remote.metadata request).outcome answers
      let name := (Remote.fileName request).outcome answers
      let got := (Remote.download { request with licenseId := license }).outcome answers
      (∀ filename, name = .ok filename →
        ∃ url, got = .ok (.redirect url) ∧ Remote.fileNameOf url = filename) ∧
      (∀ failure, found = .error failure → name = .error failure ∧ got = .error failure) ∧
      ∀ record, found = .ok record → record.url = "" →
        name = .error unnamedFile ∧ got = .error unnamedFile) ∧
    ∀ (table : Table ManagedRelease) (settings : ObjectSettings),
      let name := (Bucket.fileName table request).outcome answers
      let got := (Bucket.download table settings request).outcome answers
      (∀ outcome, got = .ok outcome → ∃ filename session credentials object artifact,
        let key := Bucket.key settings request filename
        name = .ok filename ∧ filename ≠ "" ∧
        (Services.steady answers).asked (Bucket.download table settings request) () =
          [.item table.name request.product request.version, .session settings.region,
            .assumeRole session settings.role,
            .object session credentials settings.bucket key] ∧
        (Text.withoutOuterSlashes filename).toList <:+ key.toList ∧
        answers (.object session credentials settings.bucket key) = .ok object ∧
        outcome = .stream artifact ∧ artifact.header? "content-disposition" =
          some (object.contentDisposition.getD ("attachment; filename=" ++ filename))) ∧
      ∀ failure, settings.lacking = [] → name = .error failure → got = .error failure := by
  refine ⟨fun table root => ⟨_, Records.outcome_download_eq table root⟩, ?_, ?_⟩
  · intro license
    refine ⟨?_, ?_, ?_⟩
    · exact fun _ named => Remote.exists_url_of_fileName named license
    · exact fun _ unfound => Remote.outcomes_of_unfound unfound license
    · exact fun _ found empty => Remote.outcomes_of_empty found empty license
  · intro table settings
    refine ⟨?_, fun failure filled unnamed => Bucket.outcome_download_of_error filled unnamed⟩
    intro outcome got
    obtain ⟨filename, session, credentials, object, artifact, named, asked, given, sent, rfl⟩ :=
      Bucket.exists_name_of_download got
    exact ⟨filename, session, credentials, object, artifact, named,
      Bucket.ne_empty_of_fileName named, asked, Bucket.name_suffix_key settings request filename,
      given, rfl, Bucket.header?_of_sent sent⟩

/-- A remote catalog whose urls have a query and a fragment, both with slashes. -/
def signed : Answers
  | .metadata .. => .ok { url := "https://up/chef.deb?sig=a/b#top/end" }
  | _ => .error unknownProduct

/-- A request for all that a remote catalog needs to know of a target. -/
def chefOnUbuntu : Request where
  channel := .stable
  product := "chef"
  platform := "ubuntu"
  platformVersion := "22.04"
  architecture := "x86_64"

/-- The name stands in front of the query, and a license behind the fragment leaves it there. -/
theorem signed_name_kept :
    let url := "https://up/chef.deb?sig=a/b#top/end&licenseId=free-1"
    (Remote.fileName chefOnUbuntu).outcome signed = .ok "chef.deb" ∧
      (Remote.download { chefOnUbuntu with licenseId := "free-1" }).outcome signed =
        .ok (.redirect url) ∧
      Remote.fileNameOf url = "chef.deb" := by
  have named : (Remote.fileName chefOnUbuntu).outcome signed = .ok "chef.deb" := rfl
  obtain ⟨-, proxied, -⟩ := names_agree signed chefOnUbuntu
  obtain ⟨url, got, kept⟩ := (proxied "free-1").1 "chef.deb" named
  cases got
  exact ⟨named, rfl, kept⟩

end ReleaseGate.Supply
