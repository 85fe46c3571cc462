import LostProperty.Http.Redirect

/-
  Requests that follow one another.

  One request leads to eleven at most. Each that follows is
  made within the same time, tells of the first one all or
  nothing, and has its credentials only where they were sent
  before. Being led astray takes as many requests as may be
  made.

  Main declarations:
    * `Request.Descends`
    * `Request.Descends.redirected`
    * `Wire.noted`
    * `Wire.Chain`
    * `Wire.chain_follow`
    * `Network.chain_following`
-/

------------------------------------------------------------
-- Descendants of Requests
------------------------------------------------------------

namespace LostProperty

namespace Request

/-
  What a request keeps of the one that led to it. What was to
  be changed still is, or the request only reads; and it has
  no credentials that its address did not have before.
-/
structure Descends
    (first : Request)
    (r : Request) : Prop where
  timeout : r.timeout = first.timeout
  content :
    (r.method, r.contentType, r.body) =
        (first.method, first.contentType, first.body) ∨
      (r.method, r.contentType, r.body) = (.get, none, "")
  authorization :
    r.authorization = none ∨
      r.authorization = first.authorization ∧
        r.url.address = first.url.address

namespace Descends

variable {first r : Request}

/- A request descends from itself. -/
theorem refl
    (r : Request) :
    r.Descends r where
  timeout := rfl
  content := .inl rfl
  authorization := .inr ⟨rfl, rfl⟩

/- Whatever is led on from a descendant is one as well. -/
theorem redirected
    (hDescends : first.Descends r)
    (status : Nat)
    (url : Url) :
    first.Descends (r.redirected status url) where
  timeout := by
    unfold Request.redirected
    split <;> exact hDescends.timeout
  content := by
    unfold Request.redirected
    split
    · exact .inr rfl
    · exact hDescends.content
  authorization := by
    have hAuthorization :
        (r.redirected status url).authorization =
          if url.address = r.url.address then
            r.authorization
          else
            none := by
      rfl
    rw [hAuthorization]
    split
    · rename_i hAddress
      rcases hDescends.authorization with hNone | ⟨hSame, hFirst⟩
      · exact .inl hNone
      · exact .inr ⟨hSame, hAddress.trans hFirst⟩
    · exact .inl rfl

end Descends

end Request

end LostProperty

------------------------------------------------------------
-- Chains of Requests
------------------------------------------------------------

namespace LostProperty

namespace Wire

variable {σ : Type}

/- The same wire, which also keeps the requests made on it. -/
def noted
    (wire : Wire (StateM σ)) :
    Wire (StateT (List Request) (StateM σ)) where
  exchange request := fun sent s =>
    let (reply, t) := wire.exchange request s
    ((reply, sent ++ [request]), t)
  decode := wire.decode

/-
  The requests that one led to, if a number of them may follow
  it: so many at most do, all of them descend from a request,
  and exactly so many do if the last of them leads astray.
-/
structure Chain
    (first : Request)
    (left : Nat)
    (result : Except HttpFault Response)
    (requests : List Request) : Prop where
  length : requests.length ≤ left
  descends : ∀ r ∈ requests, first.Descends r
  astray :
    ∀ url, result = .error (.astray url) → requests.length = left

namespace Chain

variable {first request : Request}
variable {left : Nat}
variable {result : Except HttpFault Response}
variable {requests : List Request}

/- Nothing follows a request that comes to another end. -/
theorem nil
    (hResult : ∀ url, result ≠ .error (.astray url)) :
    Chain first left result [] where
  length := Nat.zero_le left
  descends := by simp
  astray url hAstray := absurd hAstray (hResult url)

/- Nothing may follow a request that nothing is left for. -/
theorem nil_of_zero
    (result : Except HttpFault Response) :
    Chain first 0 result [] where
  length := Nat.zero_le 0
  descends := by simp
  astray _ _ := rfl

/- A request in front of those that it leads to. -/
theorem cons
    (hRequest : first.Descends request)
    (hChain : Chain first left result requests) :
    Chain first (left + 1) result (request :: requests) where
  length := Nat.succ_le_succ hChain.length
  descends := List.forall_mem_cons.mpr ⟨hRequest, hChain.descends⟩
  astray url hAstray :=
    congrArg (· + 1) (hChain.astray url hAstray)

end Chain

/-
  A wire that is followed leads to a chain of requests. That
  they are kept makes no difference to what comes of them.
-/
theorem chain_follow
    {origin request : Request}
    (wire : Wire (StateM σ))
    (first : Url)
    (left : Nat)
    (hRequest : origin.Descends request)
    (sent : List Request)
    (s : σ) :
    let followed := wire.follow first left request s
    ∃ requests,
      wire.noted.follow first left request sent s =
          ((followed.1, sent ++ request :: requests),
            followed.2) ∧
        Chain origin left followed.1 requests := by
  induction left using Nat.strongRecOn
    generalizing request sent s with
  | _ left ih =>
      unfold follow
      simp only [bind, StateT.bind, noted]
      generalize wire.exchange request s = exchanged
      rcases exchanged with ⟨cause | reply, t⟩
      · exact ⟨[], rfl, .nil (by rintro _ ⟨⟩)⟩
      · simp only
        cases reply.next? request with
        | none => exact ⟨[], rfl, .nil (by rintro _ ⟨⟩)⟩
        | some next =>
            rcases next with cause | url
            · exact ⟨[], rfl, .nil (by rintro _ ⟨⟩)⟩
            · cases left with
              | zero => exact ⟨[], rfl, .nil_of_zero _⟩
              | succ left =>
                  by_cases hHttp : url.isHttp
                  · simp only [hHttp, if_true]
                    have hNext :=
                      hRequest.redirected reply.response.status url
                    rcases
                      ih left left.lt_succ_self hNext
                        (sent ++ [request]) t
                      with ⟨requests, hNoted, hChain⟩
                    rw [List.append_assoc] at hNoted
                    exact ⟨_, hNoted, hChain.cons hNext⟩
                  · simp only [hHttp]
                    exact ⟨[], rfl, .nil (by rintro _ ⟨⟩)⟩

end Wire

/-
  Over a network that follows a wire, a request leads to ten
  more at most, and each of them descends from it. It is led
  astray only behind the tenth.
-/
theorem Network.chain_following
    {σ : Type}
    (wire : Wire (StateM σ))
    (request : Request)
    (sent : List Request)
    (s : σ) :
    let answered := (following wire).answer request s
    ∃ requests,
      (following wire.noted).answer request sent s =
          ((answered.1, sent ++ request :: requests),
            answered.2) ∧
        Wire.Chain request greatestRedirects answered.1
          requests :=
  Wire.chain_follow wire request.url greatestRedirects
    (.refl request) sent s

end LostProperty
