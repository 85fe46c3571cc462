import LostProperty.Http.Client
import LostProperty.Proofs.Url.Extension

/-
  URLs as the targets of requests.

  A URL of the web names a host, so that it can be asked for.
  The credentials in it go into a field of their own and
  change nothing else. What is left to check is that the URL
  is not too long and that its host can be written.

  Main declarations:
    * `Url.hasHost_of_parse`
    * `Request.target_of_parse`
    * `Request.ifSendable`
    * `Request.check_of_isHttp`
-/

------------------------------------------------------------
-- Hosts
------------------------------------------------------------

namespace LostProperty

namespace Url

/- The schemes that are spoken are schemes of the web. -/
theorem isWeb_of_isHttp
    {url : Url}
    (hHttp : url.isHttp = true) :
    SchemeKind.of url.scheme = .web := by
  rw [isHttp, schemeName, Bool.or_eq_true, decide_eq_true_eq,
    decide_eq_true_eq] at hHttp
  rw [SchemeKind.of]
  rcases hHttp with hHttp | hHttp <;> simp [hHttp]

/- An address of four octets is present. -/
theorem isPresent_of_parse4
    {text : List Char}
    {host : Host}
    (hRead : Address4.parse text = .ok host) :
    host.isPresent = true := by
  rw [Address4.parse] at hRead
  split at hRead
  · cases hRead
  · split at hRead
    · obtain rfl := Except.ok.inj hRead
      rfl
    · cases hRead

/- A host in brackets is present. -/
theorem isPresent_of_parseBracketed
    {text : List Char}
    {host : Host}
    (hRead : parseBracketed text = .ok host) :
    host.isPresent = true := by
  rw [parseBracketed] at hRead
  split at hRead
  · unfold Address6.parse at hRead
    simp only at hRead
    split at hRead
    · obtain rfl := Except.ok.inj hRead
      rfl
    · cases hRead
  · cases hRead

/- A host that is read as a name is present. -/
theorem isPresent_of_parseNamedHost
    {text : List Char}
    {host : Host}
    (hRead : parseNamedHost text = .ok host) :
    host.isPresent = true := by
  rw [parseNamedHost] at hRead
  split at hRead
  · cases hRead
  · cases hRead
  · rename_i name hName _
    split at hRead
    · exact isPresent_of_parse4 hRead
    · obtain rfl := Except.ok.inj hRead
      simpa [Host.isPresent] using hName

/- The host of a scheme of the web is present. -/
theorem isPresent_of_parseHost
    {text : List Char}
    {host : Host}
    (hRead : parseHost .web text = .ok host) :
    host.isPresent = true := by
  unfold parseHost at hRead
  split at hRead
  · cases hRead
  · exact isPresent_of_parseBracketed hRead
  · rename_i hKind _
    cases hKind
  · exact isPresent_of_parseNamedHost hRead

/- A URL of the web names a host. -/
theorem hasHost_of_parse
    {text : String}
    {url : Url}
    (hParse : parse text = .ok url)
    (hWeb : SchemeKind.of url.scheme = .web) :
    url.hasHost = true := by
  obtain ⟨authority, left, hAuthority, hReading⟩ :=
    authority_of_parse hParse hWeb
  rw [hasHost, hAuthority]
  exact isPresent_of_parseHost hReading.host

end Url

end LostProperty

------------------------------------------------------------
-- Requests
------------------------------------------------------------

namespace LostProperty

namespace Url

/- The parts of a URL that its credentials leave as they are. -/
theorem withoutCredentials_cases
    (url : Url) :
    url.withoutCredentials = url ∨
      ∃ authority,
        url.authority = some authority ∧
          url.withoutCredentials =
            { url with
              authority :=
                some
                  { authority with
                    username := []
                    password := none } } := by
  rw [withoutCredentials]
  split
  · rename_i authority hAuthority
    split
    · exact .inr ⟨authority, hAuthority, rfl⟩
    · exact .inl rfl
  · exact .inl rfl

@[simp] theorem scheme_withoutCredentials
    (url : Url) :
    url.withoutCredentials.scheme = url.scheme := by
  rcases url.withoutCredentials_cases with h | ⟨_, _, h⟩ <;> rw [h]

@[simp] theorem path_withoutCredentials
    (url : Url) :
    url.withoutCredentials.path = url.path := by
  rcases url.withoutCredentials_cases with h | ⟨_, _, h⟩ <;> rw [h]

@[simp] theorem query_withoutCredentials
    (url : Url) :
    url.withoutCredentials.query = url.query := by
  rcases url.withoutCredentials_cases with h | ⟨_, _, h⟩ <;> rw [h]

/- A request without credentials is sent to the same host. -/
@[simp] theorem address_withoutCredentials
    (url : Url) :
    url.withoutCredentials.address = url.address := by
  rcases url.withoutCredentials_cases with h | ⟨_, hSome, h⟩
  · rw [h]
  · rw [h, address, address, hSome]

@[simp] theorem isHttp_withoutCredentials
    (url : Url) :
    url.withoutCredentials.isHttp = url.isHttp := by
  rw [isHttp, schemeName, scheme_withoutCredentials]
  rfl

@[simp] theorem hasHost_withoutCredentials
    (url : Url) :
    url.withoutCredentials.hasHost = url.hasHost := by
  rcases url.withoutCredentials_cases with h | ⟨_, hSome, h⟩
  · rw [h]
  · rw [h, hasHost, hasHost, hSome]

/- A URL without a user stays as it is and authorizes nothing. -/
theorem withoutCredentials_of_none
    {url : Url}
    {authority : Authority}
    (hAuthority : url.authority = some authority)
    (hUser : authority.username = [])
    (hPassword : authority.password = none) :
    url.withoutCredentials = url ∧ url.authorization? = none := by
  have hNone : credentials? authority = none := by
    rw [credentials?, hUser, hPassword]
    rfl
  constructor
  · rw [withoutCredentials, hAuthority]
    simp [hNone]
  · rw [authorization?, hAuthority]
    simp [hNone]

/- The path of a URL with a host is asked for as it is. -/
theorem pathText_of_hasHost
    {url : Url}
    (hHost : url.hasHost = true) :
    url.pathText = url.path.text := by
  rw [hasHost] at hHost
  rw [pathText]
  split
  · rename_i hNone _
    rw [hNone] at hHost
    cases hHost
  · rfl

/- Each segment of a path stands in the URL. -/
theorem length_lt_of_mem_segments
    {url : Url}
    {values : List (List Char)}
    (hHost : url.hasHost = true)
    (hPath : url.path = .segments values)
    {segment : List Char}
    (hMember : segment ∈ values) :
    segment.length < url.chars.length := by
  have hText : segment.length + 1 ≤ url.pathText.length := by
    obtain ⟨init, others, rfl⟩ := List.append_of_mem hMember
    rw [pathText_of_hasHost hHost, hPath, UrlPath.text,
      List.flatMap_append, List.flatMap_cons,
      List.length_append, List.length_append, List.length_cons]
    omega
  simp only [chars, List.length_append]
  omega

/- A URL that is too long cannot stand in a request. -/
theorem isSendable_of_length
    {url : Url}
    (hLength : greatestLength < url.chars.length) :
    url.isSendable = false := by
  have hLong : ¬ url.chars.length ≤ greatestLength :=
    Nat.not_le_of_lt hLength
  simp [isSendable, hLong]

/- Nor can one whose host has an odd character in it. -/
theorem isSendable_of_host
    {url : Url}
    {authority : Authority}
    (hAuthority : url.authority = some authority)
    {c : Char}
    (hMember : c ∈ authority.host.text)
    (hOdd : isUnsendable c = true) :
    url.isSendable = false := by
  have hAny : authority.host.text.any isUnsendable = true :=
    List.any_eq_true.mpr ⟨c, hMember, hOdd⟩
  simp only [isSendable, hAuthority, hAny, Bool.not_true,
    Bool.and_false]

end Url

namespace Request

/- A URL that names a host can be asked for. -/
theorem target_of_parse
    {text : String}
    {url : Url}
    (hParse : Url.parse text = .ok url)
    (hWeb : SchemeKind.of url.scheme = .web) :
    target text = .ok url := by
  rw [target, hParse]
  simp [Url.hasHost_of_parse hParse hWeb]

/- A request is sent unless its URL is too long or too odd. -/
def ifSendable
    (request : Request) : Except HttpFault Request :=
  if request.url.isSendable then
    .ok request
  else
    .error (.unusableUrl .noRequest request.url)

/- Nothing else is asked of a URL of the web. -/
theorem check_of_isHttp
    {request : Request}
    (hHttp : request.url.isHttp = true) :
    request.check = request.ifSendable := by
  rw [check, ifSendable, hHttp]
  cases request.url.isSendable <;> simp

/- A request that can be sent is sent. -/
theorem ifSendable_of_isSendable
    {request : Request}
    (hSendable : request.url.isSendable = true) :
    request.ifSendable = .ok request := by
  rw [ifSendable, if_pos hSendable]

/- A request whose URL cannot stand in it is not sent. -/
theorem ifSendable_of_isSendable_eq_false
    {request : Request}
    (hUnsendable : request.url.isSendable = false) :
    request.ifSendable =
      .error (.unusableUrl .noRequest request.url) := by
  rw [ifSendable, hUnsendable]
  rfl

end Request

end LostProperty
