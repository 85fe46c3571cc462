import LostProperty.Proofs.Config.CleanBase
import LostProperty.Proofs.Container.Body
import LostProperty.Proofs.Http.Answers
import LostProperty.Proofs.Migration.Accounting
import LostProperty.Proofs.Selection

/-
  Runs over HTTP against runs over a registry of answers.

  Each answer that comes back stands for one result: a page
  or its failure, an update that was accepted or refused. A
  run over HTTP has the result of the run over the registry
  that gives these results in their order, and it sends one
  request for the listing and one for each candidate.

  Main declarations:
    * `Api.answering`
    * `Client.Amounts`
    * `Client.amounts_of_ok`
    * `CleanBase.run_over_http`
    * `CleanBase.accepted_without_requests`
-/

------------------------------------------------------------
-- Registries of Answers
------------------------------------------------------------

namespace LostProperty

/-
  The registry with this listing, which gives the outcomes of
  updates in their order. One that is asked for more accepts
  the update.
-/
def Api.answering
    (listing : Except Failure Page) :
    Api (StateM (List (Except Failure Unit))) where
  list _ := pure ⟨listing, []⟩
  update _ _ := fun
    | outcome :: rest => (⟨outcome, []⟩, rest)
    | [] => (⟨.ok (), []⟩, [])

namespace Migration

/- The updates of records take outcomes from the front. -/
theorem consult_answering
    (listing : Except Failure Page)
    (items : List Item)
    (outcomes : List (Except Failure Unit))
    (hEnough : items.length ≤ outcomes.length) :
    results (consult (Api.answering listing) items outcomes).1 =
      outcomes.take items.length := by
  induction items generalizing outcomes with
  | nil => rfl
  | cons item items ih =>
      rcases outcomes with _ | ⟨outcome, outcomes⟩
      · cases hEnough
      · rw [consult_cons_apply]
        have hRest := ih outcomes (Nat.le_of_succ_le_succ hEnough)
        simp only [results, List.map_cons, List.length_cons,
          List.take_succ_cons]
        exact congrArg (outcome :: ·) hRest

end Migration

end LostProperty

------------------------------------------------------------
-- Scripted Exchanges
------------------------------------------------------------

namespace LostProperty

namespace Client

variable {decode : Decoder}
variable {config : Config}

/- The listing takes the first answer. -/
theorem list_scripted
    {request : Request}
    {limit : Nat}
    (hMade :
      Request.forPart config.listingUrl limit config.timeout =
        .ok request)
    (response : Response)
    (answers : List (Except SendFault Reply))
    (requests : List Request) :
    (api (Network.scriptedBy decode) config).list limit
        ⟨.ok response :: answers, requests⟩ =
      (listed decode config.listingUrl limit (.ok response),
        ⟨answers, requests ++ [request]⟩) := by
  change (list (Network.scriptedBy decode) config limit) _ = _
  rw [list, Migration.bind_apply,
    send_scripted decode hMade response answers requests]
  rfl

/- An update takes the first answer that is left. -/
theorem update_scripted
    {request : Request}
    {id : String}
    {change : Update}
    (hMade :
      Request.forChange (config.recordUrl id)
          change.toJson.compact config.timeout =
        .ok request)
    (response : Response)
    (answers : List (Except SendFault Reply))
    (requests : List Request) :
    (api (Network.scriptedBy decode) config).update id change
        ⟨.ok response :: answers, requests⟩ =
      (updated decode (config.recordUrl id) change (.ok response),
        ⟨answers, requests ++ [request]⟩) := by
  change (update (Network.scriptedBy decode) config id change) _ = _
  rw [update, Migration.bind_apply,
    send_scripted decode hMade response answers requests]
  rfl

/-
  The updates of records take one answer each, in their order,
  and send one request each.
-/
theorem consult_scripted
    {toChange : Item → Request}
    {items : List Item}
    (hMade :
      ∀ item ∈ items,
        Request.forChange (config.recordUrl item.id)
            (Update.forItem item).toJson.compact
            config.timeout =
          .ok (toChange item))
    (updates : List Response)
    (hEnough : items.length ≤ updates.length)
    (requests : List Request) :
    let asked :=
      Migration.consult (api (Network.scriptedBy decode) config)
        items ⟨Script.replies updates, requests⟩
    Migration.results asked.1 =
        (updates.take items.length).map (·.outcome decode) ∧
      asked.2 =
        ⟨Script.replies (updates.drop items.length),
          requests ++ items.map toChange⟩ := by
  induction items generalizing updates requests with
  | nil =>
      intro asked
      refine ⟨rfl, ?_⟩
      simp [asked]
      rfl
  | cons item items ih =>
      intro asked
      rcases updates with _ | ⟨response, updates⟩
      · cases hEnough
      · obtain ⟨hResults, hState⟩ :=
          ih (fun other hMember => hMade other (by simp [hMember]))
            updates (Nat.le_of_succ_le_succ hEnough)
            (requests ++ [toChange item])
        have hAsked : asked = _ :=
          Migration.consult_cons_apply _ item items _
        rw [Script.replies_cons,
          update_scripted (hMade item (by simp)) response
            (Script.replies updates) requests] at hAsked
        rw [hAsked]
        constructor
        · rw [List.length_cons, List.take_succ_cons,
            List.map_cons, ← hResults, Migration.results,
            List.map_cons, Response.result_updated]
          rfl
        · rw [List.append_assoc] at hState
          exact hState

end Client

end LostProperty

------------------------------------------------------------
-- Runs over Scripted Exchanges
------------------------------------------------------------

namespace LostProperty

namespace Client

/- The records that a listing leads to updates of. -/
def candidates : Except Failure Page → List Item
  | .ok page => Item.candidates page.items
  | .error _ => []

/-
  The turns of a run over answers that come back: the listing
  with its page, and for each candidate an update with the
  outcome of the answer in its place.
-/
def turns
    (limit : Nat)
    (decode : Decoder)
    (listing : Response)
    (updates : List Response) : List Turn :=
  .list limit (listing.page decode)
    :: List.zipWith
      (fun item response =>
        .update item.id (Update.forItem item)
          (response.outcome decode))
      (candidates (listing.page decode)) updates

/- Answers that no candidate is left for lead to no turn. -/
theorem zipWith_outcomes
    {α : Type}
    (f : Item → Except Failure Unit → α)
    (decode : Decoder)
    (items : List Item)
    (updates : List Response) :
    List.zipWith f items
        ((updates.take items.length).map (·.outcome decode)) =
      List.zipWith (fun item r => f item (r.outcome decode))
        items updates := by
  induction items generalizing updates with
  | nil => rfl
  | cons item items ih =>
      rcases updates with _ | ⟨response, updates⟩
      · rfl
      · rw [List.length_cons, List.take_succ_cons,
          List.map_cons, List.zipWith_cons_cons, ih,
          List.zipWith_cons_cons]

/- The answers of a network: to the listing, and to updates. -/
def script
    (listing : Response)
    (updates : List Response) : Script :=
  ⟨Script.replies (listing :: updates), []⟩

/-
  What a run over HTTP amounts to: it has the result of the
  run over the registry of what the answers stand for, takes
  these turns, sends these requests, and leaves the answers
  that no candidate is left for.
-/
structure Amounts
    (decode : Decoder)
    (config : Config)
    (settings : RunSettings)
    (finishedAt : Instant)
    (listing : Response)
    (updates : List Response)
    (requests : List Request) : Prop where
  result :
    (Migration.run (api (Network.scriptedBy decode) config)
        (pure finishedAt) settings
        (script listing updates)).1.result =
      (Migration.run (Api.answering (listing.page decode))
        (pure finishedAt) settings
        (updates.map (·.outcome decode))).1.result
  turns :
    (Migration.run
        (api (Network.scriptedBy decode) config).transcribed
        (StateT.lift (pure finishedAt)) settings []
        (script listing updates)).1.2 =
      turns settings.pageLimit decode listing updates
  script :
    (Migration.run (api (Network.scriptedBy decode) config)
        (pure finishedAt) settings
        (script listing updates)).2 =
      ⟨Script.replies
        (updates.drop
          (candidates (listing.page decode)).length),
        requests⟩

variable {config : Config}
variable {settings : RunSettings}
variable {toList : Request}
variable {toChange : Item → Request}

/- The listing of a run takes the answer that is for it. -/
theorem listed_script
    (hList :
      Request.forPart config.listingUrl settings.pageLimit
          config.timeout =
        .ok toList)
    (listing : Response)
    (updates : List Response) :
    let asked :=
      (api (Network.scriptedBy decode) config).list
        settings.pageLimit (script listing updates)
    asked.1.result = listing.page decode ∧
      asked.2 = ⟨Script.replies updates, [toList]⟩ := by
  intro asked
  have hAsked : asked = _ :=
    list_scripted hList listing (Script.replies updates) []
  rw [hAsked]
  exact ⟨listing.result_listed _ _ _, rfl⟩

/- The registry of answers gives the page of the listing. -/
theorem list_answering
    (listing : Except Failure Page)
    (limit : Nat)
    (outcomes : List (Except Failure Unit)) :
    ((Api.answering listing).list limit outcomes).1.result =
      listing := by
  rfl

/- A run whose listing fails ends with that failure. -/
theorem amounts_of_error
    {listing : Response}
    {failure : Failure}
    (hPage : listing.page decode = .error failure)
    (hList :
      Request.forPart config.listingUrl settings.pageLimit
          config.timeout =
        .ok toList)
    (finishedAt : Instant)
    (updates : List Response) :
    Amounts decode config settings finishedAt listing updates
      [toList] := by
  obtain ⟨hResult, hState⟩ := listed_script hList listing updates
  have hOther :=
    list_answering (listing.page decode) settings.pageLimit
      (updates.map (·.outcome decode))
  have hFailed := hResult.trans hPage
  have ⟨hRun, hNoted⟩ :=
    Migration.run_of_error (pure finishedAt) hFailed
  have hExpected :=
    (Migration.run_of_error (pure finishedAt)
      (hOther.trans hPage)).1
  constructor
  · rw [hRun, hExpected]
    rfl
  · rw [Api.transcribed, hNoted, turns, hPage]
    simp only [Turn.notes, hFailed]
    rfl
  · rw [hRun, hPage]
    exact hState

/-
  A run whose listing holds a page asks for one update of
  each candidate, which takes the next answer.
-/
theorem amounts_of_ok
    {listing : Response}
    {page : Page}
    (hPage : listing.page decode = .ok page)
    (hList :
      Request.forPart config.listingUrl settings.pageLimit
          config.timeout =
        .ok toList)
    (hChange :
      ∀ item ∈ Item.candidates page.items,
        Request.forChange (config.recordUrl item.id)
            (Update.forItem item).toJson.compact
            config.timeout =
          .ok (toChange item))
    (finishedAt : Instant)
    (updates : List Response)
    (hEnough :
      (Item.candidates page.items).length ≤ updates.length) :
    Amounts decode config settings finishedAt listing updates
      (toList
        :: (Item.candidates page.items).map toChange) := by
  obtain ⟨hResult, hState⟩ := listed_script hList listing updates
  have hOther :=
    list_answering (listing.page decode) settings.pageLimit
      (updates.map (·.outcome decode))
  have hListed := hResult.trans hPage
  obtain ⟨hOutcomes, hLeft⟩ :=
    consult_scripted hChange updates hEnough [toList]
  rw [← hState] at hOutcomes hLeft
  constructor
  · have hExpected :=
      Migration.consult_answering (listing.page decode)
        (Item.candidates page.items)
        (updates.map (·.outcome decode)) (by simpa)
    rw [Migration.result_run_of_ok (pure finishedAt) hListed,
      Migration.result_run_of_ok (pure finishedAt)
        (hOther.trans hPage), hOutcomes, List.map_take,
      ← hExpected]
    rfl
  · rw [Migration.run_transcribed_of_ok (pure finishedAt)
      hListed, hOutcomes, turns, hPage]
    exact congrArg (Turn.list _ _ :: ·)
      (zipWith_outcomes _ _ _ _)
  · rw [(Migration.run_of_ok (pure finishedAt) hListed).1, hPage]
    exact hLeft

end Client

end LostProperty

------------------------------------------------------------
-- Runs below Clean Bases
------------------------------------------------------------

namespace LostProperty

namespace CleanBase

/-
  The requests of a run below a base: one for the listing and
  one for each record that it leads to an update of.
-/
def requests
    (b : CleanBase)
    (url : Url)
    (timeout : Option Nat)
    (limit : Nat)
    (page : Except Failure Page) : List Request :=
  b.listing url limit timeout
    :: (Client.candidates page).map
      fun item => b.change url item timeout

/-
  Over HTTP, a run below an accepted base asks for the listing
  of the base and then updates the candidates of its page, in
  their order, each with one request that the next answer is
  for, and that tells the update in its body. It reports what
  the run over the registry of these answers reports. All this
  holds for any answers, if the identifiers of the candidates
  are clean, the answers last, and every URL can stand in a
  request.
-/
theorem run_over_http
    {b : CleanBase}
    {timeout : Option String}
    {config : Config}
    {url : Url}
    (hAccepts :
      Config.Accepts (some b.text) timeout config url)
    (decode : Decoder)
    (settings : RunSettings)
    (finishedAt : Instant)
    (listing : Response)
    (updates : List Response)
    (hIds :
      ∀ item ∈ Client.candidates (listing.page decode),
        IsClean item.id.toList)
    (hEnough :
      (Client.candidates (listing.page decode)).length ≤
        updates.length)
    (hSendable :
      ∀ request ∈
          b.requests url config.timeout settings.pageLimit
            (listing.page decode),
        request.url.isSendable = true) :
    Client.Amounts decode config settings finishedAt listing
        updates
        (b.requests url config.timeout settings.pageLimit
          (listing.page decode)) ∧
      ∀ item ∈ Client.candidates (listing.page decode),
        (Update.forItem item).IsToldBy
          (b.change url item config.timeout).body := by
  refine ⟨?_, fun item _ => (Update.forItem item).isToldBy_compact⟩
  have hBase : config.baseUrl = b.text :=
    hAccepts.baseUrl_eq.trans b.normalizedBase_text
  have hReading : b.Reading url := by
    apply reading_of_parse
    rw [← hBase]
    exact hAccepts.read
  have hList :=
    hReading.forPart hBase settings.pageLimit
  rw [Request.ifSendable_of_isSendable
    (hSendable _ (List.mem_cons_self ..))] at hList
  cases hPage : listing.page decode with
  | error failure =>
      exact Client.amounts_of_error hPage hList finishedAt
        updates
  | ok page =>
      rw [hPage] at hEnough hIds
      have hChange :
          ∀ item ∈ Item.candidates page.items,
            Request.forChange (config.recordUrl item.id)
                (Update.forItem item).toJson.compact
                config.timeout =
              .ok (b.change url item config.timeout) := by
        intro item hMember
        rw [hReading.forChange hBase (hIds item hMember)]
        apply Request.ifSendable_of_isSendable
        apply hSendable
        rw [hPage]
        exact List.mem_cons_of_mem _
          (List.mem_map_of_mem hMember)
      exact Client.amounts_of_ok hPage hList hChange finishedAt
        updates hEnough

/- A base with two segments. -/
def versioned : CleanBase :=
  { host := ['h']
    port := 8080
    segments := [['a', 'p', 'i'], ['v', '1']]
    hostWhole := by decide
    hostAlone := by decide
    segmentsClean := by decide }

/- The URL that this base is read as. -/
def versionedUrl : Url :=
  { scheme := scheme
    authority := some ⟨[], none, .name ['h'], some 8080⟩
    path := .segments versioned.segments
    query := none
    fragment := none }

/- The listing of a suitcase, a book and a bag. -/
def luggage : Response :=
  { status := 200
    contentType := none
    body :=
      { octets :=
          ("\x7b\"objets\":["
            ++ "\x7b\"id\":\"a-1\",\"typeObjet\":\"Valise\"\x7d,"
            ++ "\x7b\"id\":\"b_2\",\"typeObjet\":\"Livre\"\x7d,"
            ++ "\x7b\"id\":\"c3\",\"typeObjet\":\"Sac de sport\"\x7d"
            ++ "]\x7d").toUTF8.toList
        isComplete := true } }

/-
  Of the two containers in a listing, one is updated; the body
  of the request for it names its category.
-/
theorem run_over_http_luggage :
    let config : Config := ⟨versioned.text, none, 1000⟩
    let decode := Charset.decodeText
    let page := luggage.page decode
    Config.Accepts (some versioned.text) none config
        versionedUrl ∧
      (Client.candidates page).map Item.id =
          ["a-1", "c3"] ∧
        Client.Amounts decode config ⟨50, ⟨7⟩, ⟨0, 0⟩⟩ ⟨5, 0⟩
          luggage
          [⟨500, none, ⟨[], true⟩⟩, ⟨204, none, ⟨[], true⟩⟩]
          (versioned.requests versionedUrl none 50 page) ∧
        (∀ item ∈ Client.candidates page,
          (Update.forItem item).IsToldBy
            (versioned.change versionedUrl item none).body) ∧
        ((Client.candidates page).map fun item =>
            (versioned.change versionedUrl item none).body) =
          ["\x7b\"isContainer\":true,\"containerDetails\":"
              ++ "\x7b\"type\":\"valise\",\"inventory\":[]\x7d\x7d",
            "\x7b\"isContainer\":true,\"containerDetails\":"
              ++ "\x7b\"type\":\"sac\",\"inventory\":[]\x7d\x7d"] := by
  intro config decode page
  have hAccepts :
      Config.Accepts (some versioned.text) none config
        versionedUrl :=
    ⟨by decide +kernel, by decide +kernel⟩
  have hCandidates :
      (Client.candidates page).map Item.id =
          ["a-1", "c3"] ∧
        (∀ item ∈ Client.candidates page,
          IsClean item.id.toList) ∧
        ∀ request ∈ versioned.requests versionedUrl none 50 page,
          request.url.isSendable = true := by
    decide +kernel
  obtain ⟨hIdentifiers, hIds, hSendable⟩ := hCandidates
  have hLength := congrArg List.length hIdentifiers
  rw [List.length_map] at hLength
  rcases
    run_over_http hAccepts decode ⟨50, ⟨7⟩, ⟨0, 0⟩⟩ ⟨5, 0⟩
      luggage
      [⟨500, none, ⟨[], true⟩⟩, ⟨204, none, ⟨[], true⟩⟩] hIds
      hLength.le hSendable with ⟨hAmounts, hTold⟩
  exact
    ⟨hAccepts, hIdentifiers, hAmounts, hTold, by decide +kernel⟩

end CleanBase

end LostProperty

------------------------------------------------------------
-- URLs that Cannot Stand in Requests
------------------------------------------------------------

namespace LostProperty

/- A run that cannot ask for the listing sends nothing. -/
theorem Client.run_of_unsent
    {config : Config}
    {settings : RunSettings}
    {fault : HttpFault}
    (hList :
      Request.forPart config.listingUrl settings.pageLimit
          config.timeout =
        .error fault)
    (decode : Decoder)
    (finishedAt : Instant)
    (s : Script) :
    let network := Network.scriptedBy decode
    (Migration.run (api network config)
        (pure finishedAt) settings s).1.result =
          .error (.http fault) ∧
      (Migration.run (api network config)
        (pure finishedAt) settings s).2 = s := by
  intro network
  have hListing :
      (api network config).list settings.pageLimit s =
        (listed decode config.listingUrl settings.pageLimit
          (.error fault), s) := by
    change (list network config _) s = _
    rw [list, hList]
    rfl
  have hFailed :
      ((api network config).list settings.pageLimit
        s).1.result = .error (.http fault) := by
    rw [hListing]
    rfl
  rw [(Migration.run_of_error (pure finishedAt) hFailed).1,
    hListing]
  exact ⟨rfl, rfl⟩

namespace CleanBase

/- The URL of a listing holds the segments of its base. -/
theorem length_lt_listing
    {b : CleanBase}
    {url : Url}
    (hReading : b.Reading url)
    (limit : Nat)
    (timeout : Option Nat)
    {segment : List Char}
    (hMember : segment ∈ b.segments) :
    segment.length <
      (b.listing url limit timeout).url.chars.length := by
  have hHost : url.hasHost = true :=
    Url.hasHost_of_parse hReading.read
      (Url.isWeb_of_isHttp hReading.isHttp)
  have hListing :
      (b.listing url limit timeout).url.hasHost = true :=
    hHost
  apply Url.length_lt_of_mem_segments hListing rfl
  exact List.mem_append_left _ hMember

/- A base is accepted, but no run below it sends anything. -/
structure IsIdle
    (b : CleanBase) : Prop where
  accepts :
    ∃ url,
      Config.Accepts (some b.text) none ⟨b.text, none, 1000⟩ url
  requests :
    ∀ (decode : Decoder)
      (settings : RunSettings)
      (finishedAt : Instant)
      (listing : Response)
      (updates : List Response),
      (Migration.run
        (Client.api (Network.scriptedBy decode)
          ⟨b.text, none, 1000⟩)
        (pure finishedAt) settings
        (Client.script listing updates)).2.requests = []

/- Nothing is sent when the listing cannot be asked for. -/
theorem isIdle_of_unsendable
    {b : CleanBase}
    {url : Url}
    (hReading : b.Reading url)
    (hUnsendable :
      ∀ limit, (b.listing url limit none).url.isSendable = false) :
    b.IsIdle where
  accepts := ⟨url, hReading.accepts rfl⟩
  requests := by
    intro decode settings finishedAt listing updates
    let config : Config := ⟨b.text, none, 1000⟩
    have hBase : config.baseUrl = b.text := rfl
    have hList := hReading.forPart hBase settings.pageLimit
    rw [Request.ifSendable_of_isSendable_eq_false
      (hUnsendable settings.pageLimit)] at hList
    rw [(Client.run_of_unsent hList decode finishedAt _).2]
    rfl

/-
  A base that is too long for a request: its one segment
  alone is longer than a URL in a request may be.
-/
def oversized : CleanBase :=
  { host := ['h']
    port := 80
    segments := [List.replicate (Url.greatestLength + 1) 'a']
    hostWhole := by decide
    hostAlone := by decide
    segmentsClean := by
      intro segment hMember
      rw [List.mem_singleton.mp hMember]
      exact isClean_replicate _ (by rfl) }

/- No run below this base asks for anything. -/
theorem isIdle_oversized :
    oversized.IsIdle := by
  -- The base is its host with the one segment below it.
  let start : CleanBase :=
    { oversized with
      segments := []
      segmentsClean := by simp }
  let startUrl : Url :=
    { scheme := scheme
      authority := some ⟨[], none, .name ['h'], none⟩
      path := .segments [[]]
      query := none
      fragment := none }
  have hStart : start.Reading startUrl :=
    reading_of_parse (by decide +kernel)
  have hReading :
      oversized.Reading
        (startUrl.withSegments oversized.segments) :=
    hStart.below
      (oversized.segmentsClean _ (List.mem_singleton_self _))
  apply isIdle_of_unsendable hReading
  intro limit
  have hLength :=
    length_lt_listing hReading limit none
      (List.mem_singleton_self
        (List.replicate (Url.greatestLength + 1) 'a'))
  rw [List.length_replicate] at hLength
  exact Url.isSendable_of_length (Nat.lt_of_succ_lt hLength)

/- A base with a host that no request can name. -/
def quoted : CleanBase :=
  { host := ['a', '"', 'b']
    port := 81
    segments := []
    hostWhole := by decide
    hostAlone := by decide
    segmentsClean := by simp }

/- No run below this base asks for anything either. -/
theorem isIdle_quoted :
    quoted.IsIdle := by
  let url : Url :=
    { scheme := scheme
      authority := some ⟨[], none, .name quoted.host, some 81⟩
      path := .segments [[]]
      query := none
      fragment := none }
  have hReading : quoted.Reading url :=
    reading_of_parse (by decide +kernel)
  have hQuote : '"' ∈ (Host.name quoted.host).text := by
    decide
  apply isIdle_of_unsendable hReading
  intro limit
  exact Url.isSendable_of_host rfl hQuote (by rfl)

/-
  A base may be accepted and no run below it send anything:
  the URL of its listing is too long for a request, or its
  host cannot be written in one.
-/
theorem accepted_without_requests :
    oversized.IsIdle ∧ quoted.IsIdle :=
  ⟨isIdle_oversized, isIdle_quoted⟩

end CleanBase

end LostProperty
