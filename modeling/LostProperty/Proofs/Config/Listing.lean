import LostProperty.Proofs.Http.Target
import LostProperty.Proofs.Url.Margin

/-
  Where the listing is asked for.

  A base URL is accepted as it is read alone, and kept as a
  text; the URL of the listing is read from a longer text.
  The two agree only for a base under which names can be
  appended. Behind a query or a fragment the listing is never
  asked for, and behind a separator it is asked for under a
  path with one more slash. A margin at the end of the base
  is read as a part of its host or of its last segment.

  Main declarations:
    * `Config.Accepts`
    * `Request.Lists`
    * `Config.ListsBelow`
    * `Config.listsBelow_iff`
-/

------------------------------------------------------------
-- Accepted Bases
------------------------------------------------------------

namespace LostProperty

namespace Config

/- The settings were accepted, with this URL as their base. -/
structure Accepts
    (base timeout : Option String)
    (config : Config)
    (url : Url) : Prop where
  accepted : ofValues base timeout = .ok config
  read : Url.parse config.baseUrl = .ok url

/-
  A base that is kept is the normalized one, and it is read
  as a URL of a scheme that is spoken.
-/
theorem readBase_eq_ok
    {given base : String}
    (hBase : readBase given = .ok base) :
    base = normalizedBase given ∧
      ∃ url, Url.parse base = .ok url ∧ url.isHttp = true := by
  rw [readBase] at hBase
  split at hBase
  · cases hBase
  · rename_i read hRead
    split at hBase
    · rename_i hHttp
      obtain rfl := Except.ok.inj hBase
      exact ⟨rfl, read, hRead, hHttp⟩
    · cases hBase

/- Accepted settings have a base that could be read. -/
theorem readBase_of_ofValues
    {base timeout : Option String}
    {config : Config}
    (hAccepted : ofValues base timeout = .ok config) :
    readBase (base.getD defaultBaseUrl) =
      .ok config.baseUrl :=
  (ofValues_eq_ok_iff.mp hAccepted).1

/- An accepted base has a scheme that is spoken. -/
theorem Accepts.isHttp
    {base timeout : Option String}
    {config : Config}
    {url : Url}
    (hAccepts : Accepts base timeout config url) :
    url.isHttp = true := by
  obtain ⟨-, read, hRead, hHttp⟩ :=
    readBase_eq_ok (readBase_of_ofValues hAccepts.accepted)
  rw [hAccepts.read] at hRead
  rwa [Except.ok.inj hRead]

/- The base that is accepted is the normalized one. -/
theorem Accepts.baseUrl_eq
    {base timeout : Option String}
    {config : Config}
    {url : Url}
    (hAccepts : Accepts base timeout config url) :
    config.baseUrl =
      normalizedBase (base.getD defaultBaseUrl) :=
  (readBase_eq_ok
    (readBase_of_ofValues hAccepts.accepted)).1

end Config

end LostProperty

------------------------------------------------------------
-- The Listing
------------------------------------------------------------

namespace LostProperty

/- The name of the collection below the base. -/
def Config.collection : String :=
  "objets-perdus"

/- A request for a part of the collection below a base. -/
structure Request.Lists
    (request : Request)
    (base : Url)
    (limit : Nat) : Prop where
  method : request.method = .get
  scheme : request.url.scheme = base.scheme
  address : request.url.address = base.address
  target :
    request.url.target.toList =
      base.stem ++ '/' :: Config.collection.toList
        ++ "?limit=".toList ++ (toString limit).toList

namespace Config

/-
  The listing is asked for below the base: at the same host,
  under the path of the base without slashes at its end, and
  with nothing but the limit in the query.
-/
structure ListsBelow
    (config : Config)
    (base listing : Url) : Prop where
  read : Url.parse config.listingUrl = .ok listing
  isHttp : listing.isHttp = true
  scheme : listing.scheme = base.scheme
  authority : listing.authority = base.authority
  path :
    listing.path.text = base.stem ++ '/' :: collection.toList
  query : listing.query = none
  fragment : listing.fragment = none
  requests :
    ∀ limit, ∃ request : Request,
      Request.forPart config.listingUrl limit config.timeout =
          request.ifSendable ∧
        request.Lists base limit

/- The URL of the listing is the base with a name behind it. -/
theorem listingUrl_eq
    (config : Config) :
    config.listingUrl = config.baseUrl ++ "/" ++ collection := by
  rw [String.append_assoc]
  rfl

/- The name of the collection is plain. -/
theorem plainName_collection :
    Url.PlainName collection where
  isPresent := by decide
  whole := by decide
  firm := by decide
  notDot := by decide
  notDots := by decide
  literal := by decide

/- A URL below a base is sent to the host of the base. -/
theorem address_eq_of_isChild
    {base child : Url}
    {name : String}
    {segment : List Char}
    (hChild : Url.IsChild base child name segment) :
    child.address = base.address := by
  rw [Url.address, Url.address, hChild.authority,
    hChild.scheme]

/- A part of a collection below a base is asked for there. -/
theorem exists_listing_request
    {text : String}
    {base listing : Url}
    (hRead : Url.parse text = .ok listing)
    (hHttp : listing.isHttp = true)
    (hChild :
      Url.IsChild base listing collection collection.toList)
    (limit : Nat)
    (timeout : Option Nat) :
    ∃ request : Request,
      Request.forPart text limit timeout = request.ifSendable ∧
        request.Lists base limit := by
  have hWeb := Url.isWeb_of_isHttp hHttp
  have hHost := Url.hasHost_of_parse hRead hWeb
  let request : Request :=
    { method := .get
      url :=
        listing.withoutCredentials.withPair
          "limit" (toString limit)
      authorization := listing.authorization?
      contentType := none
      body := ""
      timeout := timeout }
  refine ⟨request, ?_, ?_⟩
  · have hRequest : request.url.isHttp = true :=
      (Url.isHttp_withoutCredentials listing).trans hHttp
    rw [Request.forPart, Request.target_of_parse hRead hWeb]
    exact Request.check_of_isHttp hRequest
  · constructor
    · rfl
    · exact (Url.scheme_withoutCredentials listing).trans
        hChild.scheme
    · exact (Url.address_withoutCredentials listing).trans
        (address_eq_of_isChild hChild)
    · have hPath :
          request.url.pathText =
            base.stem ++ '/' :: collection.toList := by
        rw [Url.pathText_of_hasHost, ← hChild.path]
        · exact congrArg UrlPath.text
            (Url.path_withoutCredentials listing)
        · exact (Url.hasHost_withoutCredentials listing).trans
            hHost
      have hQuery :
          request.url.query =
            some ("limit=" ++ toString limit).toList := by
        change some _ = some _
        rw [Url.query_withoutCredentials, hChild.query]
        rfl
      rw [Url.target, hPath, hQuery]
      simp [Url.marked]

/- Below a base that takes names the listing is asked for. -/
theorem exists_listsBelow
    {base timeout : Option String}
    {config : Config}
    {url : Url}
    (hAccepts : Accepts base timeout config url)
    (hTakes : Url.TakesNames config.baseUrl url) :
    ∃ listing, config.ListsBelow url listing := by
  have hWeb := Url.isWeb_of_isHttp hAccepts.isHttp
  obtain ⟨listing, hRead, hChild⟩ :=
    hTakes.isChild hAccepts.read hWeb plainName_collection
  rw [← listingUrl_eq] at hRead
  have hHttp : listing.isHttp = true := by
    rw [← hAccepts.isHttp, Url.isHttp, Url.schemeName,
      hChild.scheme]
    rfl
  exact ⟨listing,
    { read := hRead
      isHttp := hHttp
      scheme := hChild.scheme
      authority := hChild.authority
      path := hChild.path
      query := hChild.query
      fragment := hChild.fragment
      requests := fun limit =>
        exists_listing_request hRead hHttp hChild limit
          config.timeout }⟩

/- A listing that is asked for below the base is its child. -/
theorem ListsBelow.isChild
    {config : Config}
    {url listing : Url}
    (hLists : config.ListsBelow url listing) :
    Url.IsChild url listing collection collection.toList where
  scheme := hLists.scheme
  authority := hLists.authority
  path := hLists.path
  query := hLists.query
  fragment := hLists.fragment
  isPresent := by decide
  single := by decide
  meaning := by decide

/-
  Among accepted bases, the listing is asked for below exactly
  those that take names.
-/
theorem listsBelow_iff
    {base timeout : Option String}
    {config : Config}
    {url : Url}
    (hAccepts : Accepts base timeout config url) :
    (∃ listing, config.ListsBelow url listing) ↔
      Url.TakesNames config.baseUrl url := by
  constructor
  · rintro ⟨listing, hLists⟩
    have hWeb := Url.isWeb_of_isHttp hAccepts.isHttp
    have hRead := hLists.read
    rw [listingUrl_eq] at hRead
    exact ((Url.isChild_iff hAccepts.read hWeb collection).mp
      ⟨listing, _, hRead, hLists.isChild⟩).1
  · exact exists_listsBelow hAccepts

/- A base with a path and a slash at its end is such a base. -/
theorem listsBelow_of_path :
    let config : Config := ⟨"http://h/a", none, 1000⟩
    let url : Url :=
      { scheme := "http".toList
        authority := some ⟨[], none, .name ['h'], none⟩
        path := .segments [['a']]
        query := none
        fragment := none }
    Accepts (some "http://h/a/") none config url ∧
      ∃ listing, config.ListsBelow url listing := by
  intro config url
  have hAccepts :
      Accepts (some "http://h/a/") none config url :=
    ⟨by decide +kernel, by decide +kernel⟩
  refine ⟨hAccepts, (listsBelow_iff hAccepts).mpr ?_⟩
  exact ⟨by decide +kernel, rfl, rfl, by decide +kernel,
    by decide +kernel⟩

/-
  A base may be accepted and the URL of its listing be none:
  the space in front of the slash at the end is a margin of
  the base that is read, and stands in the host of the URL
  that is asked for.
-/
theorem accepted_without_listing :
    let config : Config := ⟨"http://h ", none, 1000⟩
    ofValues (some "http://h /") none = .ok config ∧
      Url.parse config.listingUrl = .error .invalidDomain ∧
        ∀ limit,
          Request.forPart config.listingUrl limit
              config.timeout =
            .error (.invalidUrl .invalidDomain) := by
  intro config
  have hRead :
      Url.parse config.listingUrl = .error .invalidDomain := by
    decide +kernel
  refine ⟨by decide +kernel, hRead, ?_⟩
  intro limit
  rw [Request.forPart, Request.target, hRead]
  rfl

/- Behind a query the name of the listing is asked, not entered. -/
example :
    ((ofValues (some "http://h/a?b") none).toOption.bind
        fun config =>
          (Url.parse config.listingUrl).toOption).map
            Url.target =
      some "/a?b/objets-perdus" := by
  decide +kernel

end Config

end LostProperty
