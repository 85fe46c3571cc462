import LostProperty.Console
import LostProperty.Proofs.Http.Answers

/-
  Whether a refused update is explained.

  A failure is explained if the account of it holds more
  than blanks. A blank answer says nothing, so the status is
  named instead of it, and every other text is told. But
  blanks are looked for before the text is read: a JSON text
  whose content is blank is taken for an answer, and nothing
  but its content is told.

  Main declarations:
    * `FailedItem.IsExplained`
    * `Client.QuotesBlanks`
    * `Client.isBlank_detail_payload?_iff`
    * `Client.explained_iff_of_refusal`
-/

------------------------------------------------------------
-- Accounts that Say Nothing
------------------------------------------------------------

namespace LostProperty

/- The account of a failed record holds more than blanks. -/
def FailedItem.IsExplained
    (failed : FailedItem) : Prop :=
  ∃ c ∈ failed.detail.toList, Text.isBlank c = false

theorem FailedItem.isExplained_iff
    {failed : FailedItem} :
    failed.IsExplained ↔ ¬ Text.IsBlank failed.detail :=
  Text.not_isBlank_iff.symm

namespace Client

/- A text is JSON for a text that holds blanks alone. -/
def QuotesBlanks
    (text : String) : Prop :=
  ∃ words,
    Json.parse text = .ok (.text words) ∧ Text.IsBlank words

/- The words that name a status are not blank. -/
theorem not_isBlank_message
    (status : Nat)
    (body : Option Json) :
    ¬ Text.IsBlank (Failure.api status body).message := by
  have hMessage :
      (Failure.api status body).message =
        "API responded with status " ++ toString status := by
    rfl
  have hLetter : 'A' ∈ "API responded with status ".toList := by
    decide
  rw [hMessage, Text.not_isBlank_iff, String.toList_append]
  exact ⟨'A', List.mem_append_left _ hLetter, by decide⟩

/- The account of a value is blank for blank texts alone. -/
theorem isBlank_detail_of_value_iff
    (status : Nat)
    (value : Json) :
    Text.IsBlank (Failure.api status (some value)).detail ↔
      ∃ words, value = .text words ∧ Text.IsBlank words := by
  by_cases hText : ∃ words, value = .text words
  · rcases hText with ⟨words, rfl⟩
    constructor
    · exact fun hBlank => ⟨words, rfl, hBlank⟩
    · rintro ⟨_, ⟨⟩, hBlank⟩
      exact hBlank
  · rw [not_exists] at hText
    rw [detail_of_value status hText]
    constructor
    · exact fun hBlank =>
        absurd hBlank (Json.not_isBlank_compact value)
    · rintro ⟨words, hValue, -⟩
      exact absurd hValue (hText words)

/- So the account of a text is blank if it quotes blanks. -/
theorem isBlank_detail_payload?_iff
    (status : Nat)
    (text : String) :
    Text.IsBlank (Failure.api status (payload? text)).detail ↔
      QuotesBlanks text := by
  by_cases hBlank : Text.IsBlank text
  · -- The status is named, and a blank text is not JSON.
    rw [payload?_of_isBlank hBlank]
    constructor
    · exact fun hMessage =>
        absurd hMessage (not_isBlank_message status none)
    · rintro ⟨words, hParse, -⟩
      exact absurd hBlank (Json.not_isBlank_of_parse hParse)
  · by_cases hParse : ∃ value, Json.parse text = .ok value
    · rcases hParse with ⟨value, hParse⟩
      rw [payload?_of_parse hParse, isBlank_detail_of_value_iff]
      unfold QuotesBlanks
      rw [hParse]
      simp only [Except.ok.injEq]
    · rw [not_exists] at hParse
      rw [payload?_of_not_parse hBlank hParse]
      constructor
      · exact fun hDetail => absurd hDetail hBlank
      · rintro ⟨words, hWords, -⟩
        exact absurd hWords (hParse _)

end Client

end LostProperty

------------------------------------------------------------
-- Refused Updates
------------------------------------------------------------

namespace LostProperty

namespace Client

variable {σ : Type}

/-
  What is told of a refused update whose text can be read.
  The update fails; the account that is entered for its
  record is the one on the console, behind the number of the
  record; it names the status if the text is blank; and it
  explains the failure unless the text quotes blanks.
-/
theorem explained_iff_of_refusal
    (network : Network (StateM σ))
    (config : Config)
    (s : σ)
    (id : String)
    (change : Update)
    (item : Item)
    (response : Response)
    (text : String)
    (hText : response.text? network.decode = some text)
    (hReceives :
      Receives network s (updateRequest config id change)
        response)
    (hRefused : ¬ response.Succeeds) :
    ∃ failure,
      ((api network config).update id change s).1.result =
          .error failure ∧
        let failed := FailedItem.of item failure
        Console.failed failed =
            .alert ("❌ Failed to migrate " ++ item.number
              ++ ": " ++ failed.detail ++ "\n") ∧
          (Text.IsBlank text →
            failed.detail =
              "API responded with status "
                ++ toString response.status) ∧
          (failed.IsExplained ↔ ¬ QuotesBlanks text) := by
  have hFailure :
      response.failure network.decode =
        .api response.status (payload? text) := by
    rw [Response.failure, hText]
    rfl
  refine ⟨response.failure network.decode, ?_, rfl, ?_, ?_⟩
  · rw [result_update_of_receives hReceives,
      Response.outcome_of_not_succeeds hRefused]
  · intro hBlank
    rw [hFailure]
    exact
      ((explains_payload? response.status text).blank hBlank).2
  · rw [FailedItem.isExplained_iff, hFailure]
    exact not_congr
      (isBlank_detail_payload?_iff response.status text)

/- A refusal whose text is empty. -/
def emptyAnswer : Response :=
  { status := 503
    contentType := none
    body := ⟨[], true⟩ }

/- A refusal that gives its reason in words. -/
def lockedAnswer : Response :=
  { status := 409
    contentType := some "text/plain"
    body := ⟨"record is locked".toUTF8.toList, true⟩ }

/-
  The one failure is explained by its status, and the other by
  the words of the answer, behind the number of the record.
-/
theorem explained_iff_of_refusal_empty :
    let config : Config := ⟨"http://h", none, 1000⟩
    (let s : Script := ⟨[.ok emptyAnswer], []⟩
      let change := Update.forItem default
      emptyAnswer.text? Charset.decodeText = some "" ∧
        Receives Network.scripted s
          (updateRequest config "a-1" change) emptyAnswer ∧
        ¬ emptyAnswer.Succeeds ∧
        ∃ failure,
          ((api Network.scripted config).update "a-1" change
              s).1.result =
            .error failure ∧
          (FailedItem.of default failure).IsExplained ∧
          (FailedItem.of default failure).detail =
            "API responded with status 503") ∧
      let s : Script := ⟨[.ok lockedAnswer], []⟩
      let item : Item := { (default : Item) with number := "OP-7" }
      let change := Update.forItem item
      lockedAnswer.text? Charset.decodeText =
          some "record is locked" ∧
        Receives Network.scripted s
          (updateRequest config "a-7" change) lockedAnswer ∧
        ¬ lockedAnswer.Succeeds ∧
        ∃ failure,
          ((api Network.scripted config).update "a-7" change
              s).1.result =
            .error failure ∧
          (FailedItem.of item failure).IsExplained ∧
          Console.failed (FailedItem.of item failure) =
            .alert
              "❌ Failed to migrate OP-7: record is locked\n" := by
  intro config
  constructor
  · intro s change
    have hText :
        emptyAnswer.text? Charset.decodeText = some "" := by
      decide +kernel
    have hReceives :
        Receives Network.scripted s
          (updateRequest config "a-1" change) emptyAnswer :=
      receives_scripted (by decide +kernel) emptyAnswer
    have hRefused : ¬ emptyAnswer.Succeeds :=
      Response.not_succeeds rfl
    have hBlank : Text.IsBlank "" := by
      rintro c ⟨⟩
    rcases
        explained_iff_of_refusal Network.scripted config s "a-1"
          change default emptyAnswer "" hText hReceives hRefused
      with ⟨failure, hResult, -, hStatus, hExplained⟩
    have hQuoted : ¬ QuotesBlanks "" := by
      rintro ⟨words, hParse, -⟩
      exact absurd hBlank (Json.not_isBlank_of_parse hParse)
    exact
      ⟨hText, hReceives, hRefused, failure, hResult,
        hExplained.mpr hQuoted, hStatus hBlank⟩
  · intro s item change
    have hText :
        lockedAnswer.text? Charset.decodeText =
          some "record is locked" := by
      decide +kernel
    have hReceives :
        Receives Network.scripted s
          (updateRequest config "a-7" change) lockedAnswer :=
      receives_scripted (by decide +kernel) lockedAnswer
    have hRefused : ¬ lockedAnswer.Succeeds :=
      Response.not_succeeds rfl
    have hNotJson :
        (Json.parse "record is locked").toOption.isNone = true := by
      decide +kernel
    have hQuoted : ¬ QuotesBlanks "record is locked" := by
      rintro ⟨words, hParse, -⟩
      rw [hParse] at hNotJson
      cases hNotJson
    rcases
        explained_iff_of_refusal Network.scripted config s "a-7"
          change item lockedAnswer _ hText hReceives hRefused
      with ⟨failure, hResult, hAlert, -, hExplained⟩
    refine
      ⟨hText, hReceives, hRefused, failure, hResult,
        hExplained.mpr hQuoted, hAlert.trans ?_⟩
    -- The failure is the one that the answer leads to.
    have hFailure :
        failure = lockedAnswer.failure Charset.decodeText := by
      rw [result_update_of_receives hReceives,
        Response.outcome_of_not_succeeds hRefused] at hResult
      exact (Except.error.inj hResult).symm
    rw [hFailure]
    decide +kernel

/- A refusal with a JSON text that holds one blank. -/
def quotedBlankAnswer : Response :=
  { status := 500
    contentType := some "application/json"
    body := ⟨"\" \"".toUTF8.toList, true⟩ }

/-
  Its text is not blank, and yet the account of the failure
  is a blank alone, on the console as well.
-/
theorem quoted_blank_unexplained :
    let config : Config := ⟨"http://h", none, 1000⟩
    let s : Script := ⟨[.ok quotedBlankAnswer], []⟩
    let item : Item := { (default : Item) with number := "OP-1" }
    quotedBlankAnswer.text? Charset.decodeText =
        some "\" \"" ∧
      ¬ quotedBlankAnswer.Succeeds ∧
      ∃ failure,
        ((api Network.scripted config).update "a-1"
            (Update.forItem item) s).1.result =
          .error failure ∧
        (FailedItem.of item failure).detail = " " ∧
        ¬ (FailedItem.of item failure).IsExplained ∧
        Console.failed (FailedItem.of item failure) =
          .alert "❌ Failed to migrate OP-1:  \n" := by
  intro config s item
  have hText :
      quotedBlankAnswer.text? Charset.decodeText =
        some "\" \"" := by
    decide +kernel
  have hReceives :
      Receives Network.scripted s
        (updateRequest config "a-1" (Update.forItem item))
        quotedBlankAnswer :=
    receives_scripted (by decide +kernel) quotedBlankAnswer
  have hRefused : ¬ quotedBlankAnswer.Succeeds :=
    Response.not_succeeds rfl
  have hDetail :
      (FailedItem.of item
          (quotedBlankAnswer.failure Charset.decodeText)).detail =
        " " := by
    decide +kernel
  refine ⟨hText, hRefused, _, ?_, hDetail, ?_, ?_⟩
  · rw [result_update_of_receives hReceives,
      Response.outcome_of_not_succeeds hRefused]
    rfl
  · rw [FailedItem.isExplained_iff, hDetail, not_not]
    intro c hMember
    obtain rfl := List.mem_singleton.mp hMember
    decide
  · decide +kernel

end Client

end LostProperty
