import LostProperty.Proofs.Config.Listing

/-
  Where a record is updated.

  The identifier of a record is appended to the URL of the
  listing as it is. So an update is sent to the resource of
  its record exactly if the identifier is plain; what else
  a listing may carry is read as more segments, as dots, as
  a query or as encoded octets, and the update goes to some
  other resource.

  Main declarations:
    * `Request.Changes`
    * `Config.ChangesBelow`
    * `Config.changesBelow_iff`
    * `Config.id_eq_of_changesBelow`
-/

------------------------------------------------------------
-- Requests
------------------------------------------------------------

namespace LostProperty

/-
  A request that changes the resource of a record below a
  base, which one further segment stands for.
-/
structure Request.Changes
    (request : Request)
    (base : Url)
    (segment : List Char) : Prop where
  method : request.method = .patch
  scheme : request.url.scheme = base.scheme
  address : request.url.address = base.address
  target :
    request.url.target.toList =
      base.stem ++ '/' :: Config.collection.toList
        ++ '/' :: segment

namespace Config

/-
  A record is updated below the base: at the same host, and
  under the path of the listing and one further segment that
  stands for the identifier.
-/
structure ChangesBelow
    (config : Config)
    (base record : Url)
    (id : String)
    (segment : List Char) : Prop where
  read : Url.parse (config.recordUrl id) = .ok record
  scheme : record.scheme = base.scheme
  authority : record.authority = base.authority
  path :
    record.path.text =
      base.stem ++ '/' :: collection.toList ++ '/' :: segment
  query : record.query = none
  fragment : record.fragment = none
  isPresent : segment ≠ []
  single : '/' ∉ segment
  meaning :
    Percent.decode segment = Utf8.encode id.toList
  requests :
    ∀ body, ∃ request : Request,
      Request.forChange (config.recordUrl id) body
          config.timeout = request.ifSendable ∧
        request.Changes base segment ∧
          request.body = body

/- The URL of a record is the listing with a name behind it. -/
theorem recordUrl_eq
    (config : Config)
    (id : String) :
    config.recordUrl id = config.listingUrl ++ "/" ++ id := by
  have hSlash : "/objets-perdus/" = "/objets-perdus" ++ "/" := by
    decide
  rw [recordUrl, listingUrl, hSlash, ← String.append_assoc]

end Config

end LostProperty

------------------------------------------------------------
-- The Collection
------------------------------------------------------------

namespace LostProperty

namespace Config

variable {config : Config}
variable {url listing : Url}

/- The URL of the listing ends in its name. -/
theorem kept_listingUrl
    (config : Config) :
    Url.kept config.listingUrl =
      Url.kept config.baseUrl ++ "/objets-perdus".toList := by
  simp [Url.kept, listingUrl, Url.isDropped]

/- The URL of the listing ends firmly. -/
theorem endsFirmly_listingUrl
    (config : Config) :
    Url.EndsFirmly config.listingUrl := by
  rw [Url.EndsFirmly, kept_listingUrl, List.getLast?_append]
  rfl

/- The path of the listing ends in no slash. -/
theorem ListsBelow.stem_eq
    (hLists : config.ListsBelow url listing) :
    listing.stem = url.stem ++ '/' :: collection.toList := by
  rw [Url.stem, Text.dropEnd_eq_self_iff.mpr, hLists.path]
  rw [hLists.path, List.getLast?_append]
  rfl

/- The URL of the listing takes the names of records. -/
theorem ListsBelow.takesNames
    (hLists : config.ListsBelow url listing) :
    Url.TakesNames config.listingUrl listing where
  firm := endsFirmly_listingUrl config
  noQuery := hLists.query
  noFragment := hLists.fragment
  noSlash := by
    rw [kept_listingUrl, List.getLast?_append]
    rfl
  noSlashes := by
    rw [hLists.path]
    rintro ⟨before, hText⟩
    have hName :
        ('/' :: collection.toList).getLast? = some 's' := by
      decide
    have hEnd := congrArg List.getLast? hText
    rw [List.getLast?_append, List.getLast?_append, hName]
      at hEnd
    cases hEnd

/- A URL whose path is the collection of another. -/
def folder
    (url : Url) : Url :=
  { url with
    path := .plain (url.stem ++ '/' :: collection.toList) }

/- The collection ends in no slash. -/
theorem stem_folder
    (url : Url) :
    (folder url).stem = url.stem ++ '/' :: collection.toList := by
  rw [Url.stem, Text.dropEnd_eq_self_iff.mpr, folder,
    UrlPath.text]
  rw [folder, UrlPath.text, List.getLast?_append]
  rfl

end Config

end LostProperty

------------------------------------------------------------
-- Records
------------------------------------------------------------

namespace LostProperty

namespace Config

variable {config : Config}
variable {url listing record : Url}
variable {id : String}
variable {segment : List Char}

/- A record that is updated below the base is in the folder. -/
theorem ChangesBelow.isChild
    (hChanges : config.ChangesBelow url record id segment) :
    Url.IsChild (folder url) record id segment where
  scheme := hChanges.scheme
  authority := hChanges.authority
  path := by
    rw [stem_folder]
    exact hChanges.path
  query := hChanges.query
  fragment := hChanges.fragment
  isPresent := hChanges.isPresent
  single := hChanges.single
  meaning := hChanges.meaning

/- Updates of two records never go to one resource. -/
theorem id_eq_of_changesBelow
    {other : String}
    {another : List Char}
    (hChanges : config.ChangesBelow url record id segment)
    (hOther : config.ChangesBelow url record other another) :
    id = other :=
  hChanges.isChild.name_eq hOther.isChild

/- A record of the listing is changed where it is. -/
theorem exists_change_request
    (hLists : config.ListsBelow url listing)
    (hRead : Url.parse (config.recordUrl id) = .ok record)
    (hChild : Url.IsChild listing record id segment)
    (body : String) :
    ∃ request : Request,
      Request.forChange (config.recordUrl id) body
          config.timeout = request.ifSendable ∧
        request.Changes url segment ∧
          request.body = body := by
  have hHttp : record.isHttp = true := by
    rw [← hLists.isHttp, Url.isHttp, Url.schemeName,
      hChild.scheme]
    rfl
  have hWeb := Url.isWeb_of_isHttp hHttp
  have hHost := Url.hasHost_of_parse hRead hWeb
  let request : Request :=
    { method := .patch
      url := record.withoutCredentials
      authorization := record.authorization?
      contentType := some "application/json"
      body := body
      timeout := config.timeout }
  refine ⟨request, ?_, ?_, rfl⟩
  · have hRequest : request.url.isHttp = true :=
      (Url.isHttp_withoutCredentials record).trans hHttp
    rw [Request.forChange, Request.target_of_parse hRead hWeb]
    exact Request.check_of_isHttp hRequest
  · constructor
    · rfl
    · exact (Url.scheme_withoutCredentials record).trans
        (hChild.scheme.trans hLists.scheme)
    · exact (Url.address_withoutCredentials record).trans
        ((address_eq_of_isChild hChild).trans
          (address_eq_of_isChild hLists.isChild))
    · have hPath :
          request.url.pathText =
            url.stem ++ '/' :: collection.toList
              ++ '/' :: segment := by
        rw [Url.pathText_of_hasHost, ← hLists.stem_eq,
          ← hChild.path]
        · exact congrArg UrlPath.text
            (Url.path_withoutCredentials record)
        · exact (Url.hasHost_withoutCredentials record).trans
            hHost
      have hQuery : request.url.query = none :=
        (Url.query_withoutCredentials record).trans hChild.query
      rw [Url.target, hPath, hQuery]
      simp [Url.marked]

/- The URL of a record is the base with its path behind it. -/
theorem recordUrl_eq_below
    (config : Config)
    (id : String) :
    config.recordUrl id =
      config.baseUrl ++ "/" ++ (collection ++ "/" ++ id) := by
  rw [recordUrl_eq, listingUrl_eq]
  simp only [String.append_assoc]

/- What is appended to the base starts with the collection. -/
theorem extended_collection
    (url : Url)
    (path : List Char)
    (id : String) :
    url.extended path (Url.appended (collection ++ "/" ++ id)) =
      (folder url).extended (path ++ '/' :: collection.toList)
        (Url.appended id) := by
  have hKept : Url.kept collection = collection.toList := by
    decide
  rw [Url.appended_append, hKept,
    Url.extended_append url path (by decide) (by decide)]
  rfl

/- Below a base that takes names, plain records are updated. -/
theorem exists_changesBelow
    (hLists : config.ListsBelow url listing)
    (hPlain : Url.PlainName id) :
    ∃ record segment,
      config.ChangesBelow url record id segment := by
  have hWeb := Url.isWeb_of_isHttp hLists.isHttp
  obtain ⟨record, hRead, hChild⟩ :=
    hLists.takesNames.isChild hLists.read hWeb hPlain
  rw [← recordUrl_eq] at hRead
  refine ⟨record, _,
    { read := hRead
      scheme := hChild.scheme.trans hLists.scheme
      authority := hChild.authority.trans hLists.authority
      path := ?_
      query := hChild.query
      fragment := hChild.fragment
      isPresent := hChild.isPresent
      single := hChild.single
      meaning := hChild.meaning
      requests := exists_change_request hLists hRead hChild }⟩
  rw [← hLists.stem_eq]
  exact hChild.path

/-
  The path behind a base that leads to the folder goes on
  from the stem of the base.
-/
theorem standing_ground_of_folder
    {path : List Char}
    (hFolder :
      UrlPath.standing
          (Url.ground (path ++ '/' :: collection.toList)) =
        (folder url).stem) :
    UrlPath.standing (Url.ground path) = url.stem := by
  have hSegment : Url.segmentOf collection.toList =
      collection.toList := by
    decide
  rw [Url.ground_append_name path plainName_collection.not_slash
      plainName_collection.isDots_eq_false,
    UrlPath.standing_cons, hSegment, stem_folder] at hFolder
  exact List.append_cancel_right hFolder

/-
  Among accepted bases, a record is updated below exactly
  those that take names, and exactly if its identifier is
  plain.
-/
theorem changesBelow_iff
    {base timeout : Option String}
    (hAccepts : Accepts base timeout config url)
    (id : String) :
    (∃ record segment,
        config.ChangesBelow url record id segment) ↔
      Url.TakesNames config.baseUrl url ∧ Url.PlainName id := by
  constructor
  · rintro ⟨record, segment, hChanges⟩
    have hWeb := Url.isWeb_of_isHttp hAccepts.isHttp
    have hRead := hChanges.read
    rw [recordUrl_eq_below] at hRead
    rcases Url.path_eq_or_exists_extended hAccepts.read hWeb
      hRead with hSame | ⟨path, hRecord, hTakes⟩
    · -- The identifier does not reach the path.
      have hPath := hChanges.path
      have hLetter :
          'o' ∈ '/' :: collection.toList ++ '/' :: segment := by
        simp [collection]
      rw [hSame, List.append_assoc] at hPath
      exact absurd hPath
        (Url.text_path_ne hLetter (by decide))
    · have hChild := hChanges.isChild
      rw [hRecord, extended_collection] at hChild
      exact ⟨hTakes (standing_ground_of_folder
        hChild.standing_eq), hChild.plainName⟩
  · rintro ⟨hTakes, hPlain⟩
    obtain ⟨listing, hLists⟩ := exists_listsBelow hAccepts hTakes
    exact exists_changesBelow hLists hPlain

/- A record with a plain identifier is updated in its place. -/
theorem changesBelow_of_letters :
    let config : Config := ⟨"http://h/a", none, 1000⟩
    let url : Url :=
      { scheme := "http".toList
        authority := some ⟨[], none, .name ['h'], none⟩
        path := .segments [['a']]
        query := none
        fragment := none }
    Accepts (some "http://h/a") none config url ∧
      ∃ record segment,
        config.ChangesBelow url record "Zoë 1" segment := by
  intro config url
  have hAccepts :
      Accepts (some "http://h/a") none config url :=
    ⟨by decide +kernel, by decide +kernel⟩
  have hTakes : Url.TakesNames config.baseUrl url :=
    ⟨by decide +kernel, rfl, rfl, by decide +kernel,
      by decide +kernel⟩
  have hPlain : Url.PlainName "Zoë 1" :=
    ⟨by decide, by decide, by decide, by decide, by decide,
      by decide⟩
  exact ⟨hAccepts,
    (changesBelow_iff hAccepts "Zoë 1").mpr ⟨hTakes, hPlain⟩⟩

/-
  Dots in an identifier lead an update out of the collection,
  and two identifiers may lead to one resource.
-/
theorem updates_outside_collection :
    let config : Config := ⟨"http://h/a", none, 1000⟩
    ofValues (some "http://h/a") none = .ok config ∧
      (∃ request,
        Request.forChange (config.recordUrl "../../admin") ""
            config.timeout = .ok request ∧
          request.url.target = "/admin") ∧
        Url.parse (config.recordUrl "../objets-perdus/x") =
          Url.parse (config.recordUrl "x") := by
  intro config
  refine ⟨by decide +kernel, ⟨
    { method := .patch
      url :=
        { scheme := "http".toList
          authority := some ⟨[], none, .name ['h'], none⟩
          path := .segments ["admin".toList]
          query := none
          fragment := none }
      authorization := none
      contentType := some "application/json"
      body := ""
      timeout := none }, by decide +kernel, by decide +kernel⟩,
    by decide +kernel⟩

end Config

end LostProperty
