import RuntimeCargo.Contact
import RuntimeCargo.JobSecrets

/-!
# What the first contact keeps to

Whatever the bridge and the control plane answer and however long they take:
the identity is asked for as often as the policy allows and no more, and so
is the control plane; one request is signed, before the first post, and every
post has the same body; a post that is not the first begins within the time
of the policy, and so before the request expires; and an answer is the one to
the last post and to this request (`contact_kept`).

Every call has its times. The clock that has run since the start is read in no
time, and a pause lasts as long as was asked for; everything else may take any
time. The request is stamped by another clock, in milliseconds, which runs
alongside.
-/

open Program

/-- A call of the contact with its reply and its times. -/
abbrev ContactEvent := Stamped ContactCall ContactReply

/-! ## What can be read off a trace -/

namespace ContactEvent

/-- Whether an attempt to find the identity begins. -/
def asksIdentity (x : ContactEvent) : Bool :=
  match x.call with
  | .bridge .deploymentId _ => true
  | _ => false

/-- What is to be signed, where something is. -/
def signing (x : ContactEvent) : Option Json :=
  match x.call with
  | .bridge .signerSign params => some params
  | _ => none

/-- The place and the body, where something is posted. -/
def sent (x : ContactEvent) : Option (String × String) :=
  match x.call with
  | .post url body => some (url, body)
  | _ => none

end ContactEvent

/-- How often the identity was asked for. -/
def identityAttempts (t : List ContactEvent) : ℕ := t.countP ContactEvent.asksIdentity

/-- What was to be signed. -/
def signings (t : List ContactEvent) : List Json := t.filterMap ContactEvent.signing

/-- What was posted. -/
def posts (t : List ContactEvent) : List (String × String) := t.filterMap ContactEvent.sent

/-- The time in milliseconds, some time after the start. -/
def unixMs (epoch time : ℕ) : ℕ := (epoch + time) / 10 ^ 6

/-- **The clocks.** The first runs from the start and a pause is exact; the
other shows, in milliseconds, a time during the call that reads it. -/
def ContactClocks (epoch : ℕ) (x : ContactEvent) : Prop :=
  match x.call with
  | .elapsed => x.stop = x.start ∧ x.reply.since = x.start
  | .sleep duration => x.stop = x.start + duration
  | .unixTimeMs => ∀ ms, x.reply.ms = some ms →
    ∃ time, x.start ≤ time ∧ time ≤ x.stop ∧ ms = unixMs epoch time
  | _ => True

/-- What a trace shows: the attempts, the signings and the posts. -/
structure ContactSeen (t : List ContactEvent) (attempts : ℕ) (signed : List Json)
    (sent : List (String × String)) : Prop where
  attempts : identityAttempts t = attempts
  signed : signings t = signed
  sent : posts t = sent

section Seen

variable {t u : List ContactEvent} {attempts attempts' : ℕ} {signed signed' : List Json}
  {sent sent' : List (String × String)}

theorem contactSeen_nil : ContactSeen [] 0 [] [] := ⟨rfl, rfl, rfl⟩

theorem ContactSeen.append (h : ContactSeen t attempts signed sent)
    (h' : ContactSeen u attempts' signed' sent') :
    ContactSeen (t ++ u) (attempts + attempts') (signed ++ signed') (sent ++ sent') := by
  refine ⟨?_, ?_, ?_⟩
  · rw [identityAttempts, List.countP_append]
    exact congrArg₂ (· + ·) h.attempts h'.attempts
  · rw [signings, List.filterMap_append]
    exact congrArg₂ (· ++ ·) h.signed h'.signed
  · rw [posts, List.filterMap_append]
    exact congrArg₂ (· ++ ·) h.sent h'.sent

/-- What adds nothing. -/
theorem ContactSeen.quiet (h : ContactSeen t attempts signed sent) (h' : ContactSeen u 0 [] []) :
    ContactSeen (t ++ u) attempts signed sent := by
  have happend := h.append h'
  rw [List.append_nil, List.append_nil] at happend
  exact happend

end Seen

/-! ## The identity -/

section Identity

variable {epoch now : ℕ} {policy : RetryPolicy} {before : List ContactEvent}

/-- What is done in time that passes in the calls only. -/
abbrev InClocks {α : Type} (epoch : ℕ) (p : Program ContactCall ContactReply α) (now : ℕ)
    (Q : α → List ContactEvent → ℕ → Prop) : Prop :=
  Times (· = ·) (ContactClocks epoch) p now Q

theorem times_discoverRuntimeIdentity :
    InClocks epoch discoverRuntimeIdentity now fun _ t _ => ContactSeen t 1 [] [] := by
  refine times_call fun first _ _ _ _ _ => ?_
  cases first.result with
  | error error => exact times_pure ⟨rfl, rfl, rfl⟩
  | ok deployment =>
    dsimp only
    split
    · exact times_pure ⟨rfl, rfl, rfl⟩
    refine times_call fun second _ _ _ _ _ => ?_
    cases second.result with
    | error error => exact times_pure ⟨rfl, rfl, rfl⟩
    | ok publicKeys =>
      dsimp only
      cases currentPublicKey publicKeys with
      | none => exact times_pure ⟨rfl, rfl, rfl⟩
      | some currentKey =>
        refine times_call fun third _ _ _ _ _ => ?_
        cases third.result with
        | error error => exact times_pure ⟨rfl, rfl, rfl⟩
        | ok assigned =>
          dsimp only
          cases matchProcessor currentKey assigned with
          | none | some processorId => exact times_pure ⟨rfl, rfl, rfl⟩

/-- **The pause**: if there is another attempt, it begins within the time of
the policy. -/
theorem times_pauseBefore {ε : Type} {retryable : ε → Bool} {made : ℕ} {error : ε} :
    InClocks epoch (pauseBefore policy retryable made error) now fun b t stop =>
      ContactSeen t 0 [] [] ∧ (b = true → stop ≤ policy.maxElapsed) := by
  unfold pauseBefore
  split
  · exact times_pure ⟨contactSeen_nil, nofun⟩
  refine times_call fun reply start stop hstart _ hclock => ?_
  obtain ⟨hstop, hreading⟩ : stop = start ∧ reply.since = start := hclock
  dsimp only
  split
  · exact times_pure ⟨⟨rfl, rfl, rfl⟩, nofun⟩
  rename_i htime
  rw [Bool.or_eq_true, not_or, decide_eq_true_eq, decide_eq_true_eq, hreading] at htime
  refine times_call fun _ start' stop' hflow _ hsleep =>
    times_pure ⟨⟨rfl, rfl, rfl⟩, fun _ => ?_⟩
  have hslept : stop' = start' + nextDelay policy made := hsleep
  have hfrom : stop = start' := hflow
  omega

/-- **The identity is asked for as often as the policy allows.** -/
theorem times_discoverRuntimeIdentityWithRetry (hattempts : 1 ≤ policy.maxAttempts) :
    InClocks epoch (discoverRuntimeIdentityWithRetry policy) now fun _ t _ =>
      ∃ attempts ≤ policy.maxAttempts, ContactSeen t attempts [] [] := by
  unfold discoverRuntimeIdentityWithRetry
  -- the attempts made and left are together those of the policy
  refine times_retry
    (I := fun left made before _ => ContactSeen before made [] []
      ∧ made + left + 1 = policy.maxAttempts)
    (Q := fun _ t _ => ∃ attempts ≤ policy.maxAttempts, ContactSeen t attempts [] [])
    ?_ ?_ (policy.maxAttempts - 1) 0 [] now ⟨contactSeen_nil, by omega⟩
  · rintro made before now ⟨hseen, hcount⟩
    exact times_discoverRuntimeIdentity.mono fun _ t _ ht =>
      ⟨made + 1, by omega, hseen.append ht⟩
  · rintro left made before now ⟨hseen, hcount⟩
    refine times_discoverRuntimeIdentity.mono fun r t _ ht => ⟨fun _ _ => ?_, fun e _ => ?_⟩
    · exact ⟨made + 1, by omega, hseen.append ht⟩
    · refine times_pauseBefore.mono fun b u stop hu => ⟨fun _ => ?_, fun _ => ?_⟩
      · exact ⟨(hseen.append ht).quiet hu.1, by omega⟩
      · exact ⟨made + 1, by omega, (hseen.append ht).quiet hu.1⟩

end Identity

/-! ## The posts -/

section Posts

variable {epoch now : ℕ} {policy : RetryPolicy} {A : Type} {readers : ContactReaders A}
  {endpoint : String} {request : SignedRuntimeBootstrapRequest} {before : List ContactEvent}

/-- **What is heeded at a post**: the request was signed, and nothing else, and
a post that is not the first begins within the time of the policy. -/
def PostRule (policy : RetryPolicy) (request : SignedRuntimeBootstrapRequest)
    (before : List ContactEvent) (x : ContactEvent) : Prop :=
  x.sent.isSome = true → signings before = [signerParams request.unsigned.message]
    ∧ (posts before ≠ [] → x.start ≤ policy.maxElapsed)

/-- Where nothing is posted the rule is kept. -/
theorem along_of_posts_nil {t : List ContactEvent} (h : posts t = []) :
    Along (PostRule policy request) before t := by
  induction t generalizing before with
  | nil => trivial
  | cons x t ih =>
    have hx : x.sent = none ∧ posts t = [] := by
      cases hsent : x.sent with
      | none => exact ⟨rfl, (List.filterMap_cons_none hsent).symm.trans h⟩
      | some sent => exact absurd ((List.filterMap_cons_some hsent).symm.trans h) nofun
    refine ⟨fun hpost => ?_, ih hx.2⟩
    rw [hx.1] at hpost
    cases hpost

/-- **The answer is to the last post and to this request.** -/
def AnsweredTo (readers : ContactReaders A) (request : SignedRuntimeBootstrapRequest)
    (t : List ContactEvent) (answer : BootstrapAnswer A) : Prop :=
  ∃ x response, t.getLast? = some x ∧ x.sent.isSome = true ∧ x.reply = .posted (.ok response)
    ∧ readers.fromSlice response.body = some answer
    ∧ answer.bootstrap.jobId = request.unsigned.jobId
    ∧ answer.bootstrap.processorId = request.unsigned.processorId
    ∧ answer.bootstrap.runtimeInstanceId = request.unsigned.nonce

theorem validateBootstrapResponse_eq_ok {body : List UInt8} {answer : BootstrapAnswer A}
    (h : validateBootstrapResponse readers request body = .ok answer) :
    readers.fromSlice body = some answer
      ∧ answer.bootstrap.jobId = request.unsigned.jobId
      ∧ answer.bootstrap.processorId = request.unsigned.processorId
      ∧ answer.bootstrap.runtimeInstanceId = request.unsigned.nonce := by
  obtain ⟨answer', hread, h⟩ := Option.okOr_bind_eq_ok.mp h
  obtain ⟨-, h⟩ := require_bind_eq_ok.mp h
  obtain ⟨hbound, h⟩ := require_bind_eq_ok.mp h
  cases h
  exact ⟨hread, hbound⟩

theorem judgeResponse_eq_ok {result : Except HttpError HttpResponse} {answer : BootstrapAnswer A}
    (h : judgeResponse readers request result = .ok answer) :
    ∃ response, result = .ok response
      ∧ validateBootstrapResponse readers request response.body = .ok answer := by
  cases result with
  | error error => cases error <;> cases h
  | ok response =>
    refine ⟨response, rfl, ?_⟩
    dsimp only [judgeResponse] at h
    split at h
    · cases hvalid : validateBootstrapResponse readers request response.body with
      | ok answer' =>
        rw [hvalid] at h
        exact congrArg Except.ok (Except.ok.inj h)
      | error error =>
        rw [hvalid] at h
        cases h
    · split at h <;> cases h

/-- What is known after some posts. -/
structure PostsMade (policy : RetryPolicy) (endpoint : String)
    (request : SignedRuntimeBootstrapRequest) (attempts : ℕ) (made : ℕ)
    (t : List ContactEvent) : Prop where
  seen : ContactSeen t attempts [signerParams request.unsigned.message]
    (List.replicate made (endpoint, request.body))
  rule : Along (PostRule policy request) [] t

variable {attempts made : ℕ}

theorem PostsMade.quiet {t : List ContactEvent}
    (h : PostsMade policy endpoint request attempts made before) (ht : ContactSeen t 0 [] []) :
    PostsMade policy endpoint request attempts made (before ++ t) :=
  ⟨h.seen.quiet ht, along_append.mpr ⟨h.rule, along_of_posts_nil ht.sent⟩⟩

/-- **A post**: it is one more, and its answer is judged. -/
theorem times_attemptContact (h : PostsMade policy endpoint request attempts made before)
    (htime : made ≠ 0 → now ≤ policy.maxElapsed) :
    InClocks epoch (attemptContact readers endpoint request) now fun r t _ =>
      PostsMade policy endpoint request attempts (made + 1) (before ++ t)
        ∧ ∀ answer, r = .ok answer → AnsweredTo readers request (before ++ t) answer := by
  refine times_call fun reply start stop hstart _ _ => times_pure ⟨?_, fun answer hanswer => ?_⟩
  · obtain rfl : now = start := hstart
    have hseen : ContactSeen [⟨.post endpoint request.body, reply, now, stop⟩] 0 []
        [(endpoint, request.body)] := ⟨rfl, rfl, rfl⟩
    have hall := h.seen.append hseen
    rw [← List.replicate_succ', List.append_nil] at hall
    refine ⟨hall, along_append.mpr ⟨h.rule, fun _ => ⟨h.seen.signed, fun hposts => ?_⟩, trivial⟩⟩
    refine htime fun hzero => hposts ?_
    rw [List.nil_append, h.seen.sent, hzero]
    rfl
  · obtain ⟨response, hresponse, hvalid⟩ := judgeResponse_eq_ok hanswer
    refine ⟨_, response, List.getLast?_concat .., rfl, ?_, validateBootstrapResponse_eq_ok hvalid⟩
    cases reply with
    | posted result => exact congrArg ContactReply.posted hresponse
    | _ => cases hresponse

/-- **The posts are as many as the policy allows.** -/
theorem times_postRequest (hattempts : 1 ≤ policy.maxAttempts)
    (h : PostsMade policy endpoint request attempts 0 before) :
    InClocks epoch (postRequest policy readers endpoint request) now fun r t _ =>
      ∃ made ≤ policy.maxAttempts,
        PostsMade policy endpoint request attempts made (before ++ t)
          ∧ ∀ answer, r = .ok answer → AnsweredTo readers request (before ++ t) answer := by
  have hloop : InClocks epoch (retry (attemptContact readers endpoint request)
      (pauseBefore policy AttemptError.isRetryable) (policy.maxAttempts - 1) 0) now fun r t _ =>
      ∃ made ≤ policy.maxAttempts,
        PostsMade policy endpoint request attempts made (before ++ t)
          ∧ ∀ answer, r = .ok answer → AnsweredTo readers request (before ++ t) answer := by
    refine times_retry
      (I := fun left made before now => PostsMade policy endpoint request attempts made before
        ∧ made + left + 1 = policy.maxAttempts ∧ (made ≠ 0 → now ≤ policy.maxElapsed))
      (Q := fun r t _ => ∃ made ≤ policy.maxAttempts,
        PostsMade policy endpoint request attempts made t
          ∧ ∀ answer, r = .ok answer → AnsweredTo readers request t answer)
      ?_ ?_ (policy.maxAttempts - 1) 0 before now ⟨h, by omega, fun hzero => absurd rfl hzero⟩
    · rintro made before now ⟨hmade, hcount, htime⟩
      exact (times_attemptContact hmade htime).mono fun r t _ ht => ⟨made + 1, by omega, ht⟩
    · rintro left made before now ⟨hmade, hcount, htime⟩
      refine (times_attemptContact hmade htime).mono fun r t _ ht => ⟨fun _ _ => ?_, fun e he => ?_⟩
      · exact ⟨made + 1, by omega, ht⟩
      · refine times_pauseBefore.mono fun b u stop hu => ⟨fun hb => ?_, fun _ => ?_⟩
        · exact ⟨ht.1.quiet hu.1, by omega, fun _ => hu.2 hb⟩
        · refine ⟨made + 1, by omega, ht.1.quiet hu.1, fun answer hanswer => ?_⟩
          cases he.symm.trans hanswer
  refine Times.bind (hloop.mono fun r t stop ht => ?_)
  obtain ⟨made, hle, hmade, hanswered⟩ := ht
  cases r with
  | ok answer =>
    refine times_pure ?_
    rw [List.append_nil]
    exact ⟨made, hle, hmade, fun answer' heq =>
      hanswered answer' (congrArg Except.ok (Except.ok.inj heq))⟩
  | error error =>
    refine times_pure ?_
    rw [List.append_nil]
    exact ⟨made, hle, hmade, fun answer hanswer => absurd hanswer nofun⟩

end Posts

/-! ## The whole contact -/

section Whole

variable {epoch now : ℕ} {policy : RetryPolicy} {A : Type} {readers : ContactReaders A}
  {endpoint : String} {before : List ContactEvent}

/-- **The request does not expire in the first sixty seconds.** -/
def Unexpired (epoch : ℕ) (request : SignedRuntimeBootstrapRequest) : Prop :=
  ∀ time ≤ 60 * 10 ^ 9, unixMs epoch time ≤ request.unsigned.expiresAtMs

theorem expiresAtMs_of_build {identity : RuntimeIdentity} {nonce : String} {issuedAtMs : ℕ}
    {unsigned : UnsignedRuntimeBootstrapRequest}
    (h : buildUnsignedRequest identity nonce issuedAtMs = .ok unsigned) :
    unsigned.expiresAtMs = issuedAtMs + 60000 := by
  obtain ⟨expiresAtMs, hadd, h⟩ := Option.okOr_bind_eq_ok.mp h
  cases h
  exact (checkedAdd_eq_some hadd).1

/-- What was stamped at some time expires sixty seconds after it. -/
theorem unexpired_of_stamp {request : SignedRuntimeBootstrapRequest} (stamp : ℕ)
    (h : request.unsigned.expiresAtMs = unixMs epoch stamp + 60000) : Unexpired epoch request := by
  intro time htime
  have hsplit : (epoch + 60000 * 10 ^ 6) / 10 ^ 6 = epoch / 10 ^ 6 + 60000 :=
    Nat.add_mul_div_right epoch 60000 (by decide)
  calc unixMs epoch time ≤ (epoch + 60000 * 10 ^ 6) / 10 ^ 6 :=
        Nat.div_le_div_right (by omega)
    _ = epoch / 10 ^ 6 + 60000 := hsplit
    _ ≤ unixMs epoch stamp + 60000 :=
        Nat.add_le_add_right (Nat.div_le_div_right (Nat.le_add_right _ _)) _
    _ = request.unsigned.expiresAtMs := h.symm

/-- What the contact has done. Either it did not come to a post; or there is
one request, which was signed and posted. -/
def ContactDone (policy : RetryPolicy) (epoch : ℕ) (readers : ContactReaders A)
    (endpoint : String) (t : List ContactEvent)
    (outcome : Except ContactError (BootstrapAnswer A)) : Prop :=
  ∃ attempts ≤ policy.maxAttempts,
    (∃ signed, signed.length ≤ 1 ∧ ContactSeen t attempts signed []
        ∧ ∀ answer, outcome ≠ .ok answer)
      ∨ ∃ request made, made ≤ policy.maxAttempts ∧ Unexpired epoch request
        ∧ PostsMade policy endpoint request attempts made t
        ∧ ∀ answer, outcome = .ok answer → AnsweredTo readers request t answer

/-- One thing is signed: the request. -/
theorem times_signRequest (unsigned : UnsignedRuntimeBootstrapRequest) :
    InClocks epoch (signRequest unsigned) now fun r t _ =>
      ContactSeen t 0 [signerParams unsigned.message] []
        ∧ ∀ request, r = .ok request → request.unsigned = unsigned := by
  refine times_call fun reply _ _ _ _ _ => ?_
  cases reply.result with
  | error error => exact times_pure ⟨⟨rfl, rfl, rfl⟩, nofun⟩
  | ok result =>
    dsimp only
    split
    · exact times_pure ⟨⟨rfl, rfl, rfl⟩, nofun⟩
    · refine times_pure ⟨⟨rfl, rfl, rfl⟩, fun request hrequest => ?_⟩
      rw [← Except.ok.inj hrequest]

variable {attempts : ℕ}

theorem done_of_error {signed : List Json} {t : List ContactEvent} {error : ContactError}
    (hle : attempts ≤ policy.maxAttempts) (hlength : signed.length ≤ 1)
    (h : ContactSeen t attempts signed []) :
    ContactDone policy epoch readers endpoint t (.error error) :=
  ⟨attempts, hle, .inl ⟨signed, hlength, h, fun _ => nofun⟩⟩

/-- A request that will not expire too soon is signed and posted. -/
theorem times_signAndPost (hattempts : 1 ≤ policy.maxAttempts)
    {built : Except ProtocolError UnsignedRuntimeBootstrapRequest}
    (hbuilt : ∀ unsigned signature, built = .ok unsigned → Unexpired epoch ⟨unsigned, signature⟩)
    (hle : attempts ≤ policy.maxAttempts) (h : ContactSeen before attempts [] []) :
    InClocks epoch (signAndPost policy readers endpoint built) now fun r t _ =>
      ContactDone policy epoch readers endpoint (before ++ t) r := by
  cases built with
  | error error =>
    refine times_pure ?_
    rw [List.append_nil]
    exact done_of_error hle (Nat.zero_le _) h
  | ok unsigned =>
    refine Times.bind ((times_signRequest unsigned).mono fun r t _ ht => ?_)
    have hsigned : ContactSeen (before ++ t) attempts [signerParams unsigned.message] [] :=
      h.append ht.1
    cases r with
    | error error =>
      refine times_pure ?_
      rw [List.append_nil]
      exact done_of_error hle (le_refl _) hsigned
    | ok request =>
      obtain rfl := ht.2 request rfl
      have hmade : PostsMade policy endpoint request attempts 0 (before ++ t) :=
        ⟨hsigned, along_of_posts_nil hsigned.sent⟩
      refine (times_postRequest hattempts hmade).mono fun r u _ hu => ?_
      obtain ⟨made, hcount, hposts, hanswered⟩ := hu
      rw [List.append_assoc] at hposts hanswered
      exact ⟨attempts, hle, .inr ⟨request, made, hcount, hbuilt _ _ rfl, hposts, hanswered⟩⟩

theorem times_requestBootstrap (hattempts : 1 ≤ policy.maxAttempts) {identity : RuntimeIdentity}
    (hle : attempts ≤ policy.maxAttempts) (h : ContactSeen before attempts [] []) :
    InClocks epoch (requestBootstrap policy readers endpoint identity) now fun r t _ =>
      ContactDone policy epoch readers endpoint (before ++ t) r := by
  refine times_call fun random start mid _ _ _ => ?_
  cases random.bytes with
  | none => exact times_pure (done_of_error hle (Nat.zero_le _) (h.quiet ⟨rfl, rfl, rfl⟩))
  | some nonce =>
    refine times_call fun clock start' mid' _ _ hclock => ?_
    have hseen : ContactSeen [⟨.fillRandom, random, start, mid⟩, ⟨.unixTimeMs, clock, start', mid'⟩]
        0 [] [] := ⟨rfl, rfl, rfl⟩
    cases hms : clock.ms with
    | none => exact times_pure (done_of_error hle (Nat.zero_le _) (h.quiet hseen))
    | some issuedAtMs =>
      have hunexpired : ∀ unsigned signature,
          buildUnsignedRequest identity (hexEncode nonce.toList) issuedAtMs = .ok unsigned →
            Unexpired epoch ⟨unsigned, signature⟩ := by
        intro unsigned signature hbuild
        obtain ⟨stamp, -, -, rfl⟩ := hclock issuedAtMs hms
        exact unexpired_of_stamp stamp (expiresAtMs_of_build hbuild)
      refine (times_signAndPost hattempts hunexpired hle (h.quiet hseen)).mono fun r t _ ht => ?_
      rw [List.append_assoc] at ht
      exact ht

/-- **The first contact keeps to its policy**, whatever the bridge and the
control plane answer and however long they take. The identity is asked for at
most as often as the policy allows. If anything is posted, then one request was
signed, and before the first post; every post has its body, and there are at
most as many as the policy allows; a post that is not the first begins within
the time of the policy and before the request has expired. And an answer that
is returned is the one to the last post and names the job, the processor and
the nonce of the request. -/
theorem contact_kept {coreUrl : String} {stop : ℕ} {t : List ContactEvent}
    {outcome : Except ContactError (BootstrapAnswer A)} (hattempts : 1 ≤ policy.maxAttempts)
    (helapsed : policy.maxElapsed ≤ 60 * 10 ^ 9)
    (h : Yields (establishRuntimeContactWith policy readers coreUrl) (t.map Stamped.event) outcome)
    (hlasts : Lasts (· = ·) (ContactClocks epoch) now t stop) :
    identityAttempts t ≤ policy.maxAttempts ∧ (posts t).length ≤ policy.maxAttempts
      ∧ (signings t).length ≤ 1
      ∧ (posts t = [] ∧ (∀ answer, outcome ≠ .ok answer)
        ∨ ∃ endpoint request, contactEndpoint readers coreUrl = .ok endpoint
          ∧ (∀ p ∈ posts t, p = (endpoint, request.body))
          ∧ (∀ before x after, t = before ++ x :: after → x.sent.isSome = true →
            signings before = [signerParams request.unsigned.message]
              ∧ (posts before ≠ [] → x.start ≤ policy.maxElapsed
                ∧ unixMs epoch x.start ≤ request.unsigned.expiresAtMs))
          ∧ ∀ answer, outcome = .ok answer → AnsweredTo readers request t answer) := by
  cases hendpoint : contactEndpoint readers coreUrl with
  | error error =>
    unfold establishRuntimeContactWith at h
    rw [hendpoint] at h
    obtain ⟨hnil, rfl⟩ := yields_pure.mp h
    obtain rfl := List.map_eq_nil_iff.mp hnil
    exact ⟨Nat.zero_le _, Nat.zero_le _, Nat.zero_le _, .inl ⟨rfl, by rintro _ ⟨⟩⟩⟩
  | ok endpoint =>
    have hdone : InClocks epoch (establishRuntimeContactWith policy readers coreUrl) now
        fun r t _ => ContactDone policy epoch readers endpoint t r := by
      unfold establishRuntimeContactWith
      rw [hendpoint]
      refine Times.bind ((times_discoverRuntimeIdentityWithRetry hattempts).mono
        fun found s _ hs => ?_)
      obtain ⟨attempts, hle, hseen⟩ := hs
      cases found with
      | error error =>
        refine times_pure ?_
        rw [List.append_nil]
        exact ⟨attempts, hle, .inl ⟨[], Nat.zero_le _, hseen, by rintro _ ⟨⟩⟩⟩
      | ok identity => exact times_requestBootstrap hattempts hle hseen
    obtain ⟨attempts, hle, hnone | ⟨request, made, hcount, hunexpired, hmade, hanswered⟩⟩ :=
      hdone t outcome stop h hlasts
    · obtain ⟨signed, hlength, hseen, herror⟩ := hnone
      rw [hseen.attempts, hseen.signed, hseen.sent]
      exact ⟨hle, Nat.zero_le _, hlength, .inl ⟨rfl, herror⟩⟩
    · rw [hmade.seen.attempts, hmade.seen.signed, hmade.seen.sent, List.length_replicate]
      refine ⟨hle, hcount, le_refl _, .inr ⟨endpoint, request, rfl,
        fun p hp => List.eq_of_mem_replicate hp, ?_, hanswered⟩⟩
      intro before x after heq hpost
      have hrule := hmade.rule
      rw [heq] at hrule
      obtain ⟨hsigned, htime⟩ := hrule.at hpost
      rw [List.nil_append] at hsigned htime
      exact ⟨hsigned, fun hposts => ⟨htime hposts,
        hunexpired x.start ((htime hposts).trans helapsed)⟩⟩

end Whole

namespace ContactSample

def policy : RetryPolicy := ⟨5, 7, 60, 3⟩

def deployment : Json := .obj [("id", .str "1"), ("origin", .obj [])]

def keys : Json := .obj [("ed25519", .str (sampleHex 64))]

def identity : RuntimeIdentity := ⟨canonicalJsonBytes deployment, "p"⟩

def nonce : Vector UInt8 16 := Vector.replicate 16 0

def unsigned : UnsignedRuntimeBootstrapRequest :=
  ⟨runtimeBootstrapRequestDomain, identity.jobId, "p", hexEncode nonce.toList, 0, 60000⟩

def request : SignedRuntimeBootstrapRequest := ⟨unsigned, "0x" ++ sampleHex 128⟩

/-- An answer to that request. -/
def answer : BootstrapAnswer Unit where
  ok := true
  domain := runtimeBootstrapResponseDomain
  bootstrap := { sampleBootstrap with
    jobId := identity.jobId, processorId := "p", runtimeInstanceId := unsigned.nonce }
  access := none

def readers : ContactReaders Unit where
  parseUrl _ := some ⟨"https", some "core", "", none, none, none⟩
  joinUrl _ path := some ("https://core" ++ path)
  fromSlice _ := some answer
  errorFromSlice _ := none
  accessValid _ := true

def endpoint : String := "https://core/api/jobs/runtime-bootstrap"

/-- The first post fails after ten nanoseconds, and the second is answered. -/
def trace : List ContactEvent :=
  [⟨.bridge .deploymentId (.arr []), .bridged (.ok deployment), 0, 0⟩,
    ⟨.bridge .deploymentPublicKeys (.arr []), .bridged (.ok (.obj [("publicKeys", keys)])), 0, 0⟩,
    ⟨.bridge .deploymentAssignedProcessors (.arr []),
      .bridged (.ok (.obj [("processors", .obj [("p", keys)])])), 0, 0⟩,
    ⟨.fillRandom, .random (some nonce), 0, 0⟩,
    ⟨.unixTimeMs, .unixTime (some 0), 0, 0⟩,
    ⟨.bridge .signerSign (signerParams unsigned.message),
      .bridged (.ok (.obj [("bytes", .str (sampleHex 128))])), 0, 0⟩,
    ⟨.post endpoint request.body, .posted (.error .transport), 0, 10⟩,
    ⟨.elapsed, .time 10, 10, 10⟩,
    ⟨.sleep 5, .done, 10, 15⟩,
    ⟨.post endpoint request.body, .posted (.ok ⟨200, []⟩), 15, 16⟩]

theorem matchProcessor_keys :
    matchProcessor (sampleHex 64) (.obj [("processors", .obj [("p", keys)])]) = some "p" := by
  decide +kernel

/-- The identity is found, if everything is there. -/
theorem yields_discoverRuntimeIdentity {deployment publicKeys assigned : Json}
    {currentKey processorId : String} (hdeployment : deploymentOk deployment = true)
    (hkey : currentPublicKey publicKeys = some currentKey)
    (hprocessor : matchProcessor currentKey assigned = some processorId) :
    Yields discoverRuntimeIdentity
      [(.bridge .deploymentId (.arr []), .bridged (.ok deployment)),
        (.bridge .deploymentPublicKeys (.arr []), .bridged (.ok publicKeys)),
        (.bridge .deploymentAssignedProcessors (.arr []), .bridged (.ok assigned))]
      (.ok ⟨canonicalJsonBytes deployment, processorId⟩) := by
  refine yields_perform_bind.mpr ⟨_, _, rfl, ?_⟩
  dsimp only [ContactReply.result]
  rw [hdeployment]
  refine yields_perform_bind.mpr ⟨_, _, rfl, ?_⟩
  dsimp only [ContactReply.result]
  rw [hkey]
  refine yields_perform_bind.mpr ⟨_, _, rfl, ?_⟩
  dsimp only [ContactReply.result]
  rw [hprocessor]
  exact yields_pure.mpr ⟨rfl, rfl⟩

theorem currentPublicKey_keys :
    currentPublicKey (.obj [("publicKeys", keys)]) = some (sampleHex 64) := by decide +kernel

theorem yields_discover :
    Yields (discoverRuntimeIdentityWithRetry policy) ((trace.take 3).map Stamped.event)
      (.ok identity) :=
  yields_bind.mpr ⟨_, [], _, (List.append_nil _).symm,
    yields_discoverRuntimeIdentity rfl currentPublicKey_keys matchProcessor_keys,
    yields_pure.mpr ⟨rfl, rfl⟩⟩

/-- The request is signed, if there is a signature. -/
theorem yields_signRequest {unsigned : UnsignedRuntimeBootstrapRequest} {result : Json}
    {signature : String} (h : signatureOf result = some signature) :
    Yields (signRequest unsigned)
      [(.bridge .signerSign (signerParams unsigned.message), .bridged (.ok result))]
      (.ok ⟨unsigned, "0x" ++ signature⟩) := by
  refine yields_perform_bind.mpr ⟨_, _, rfl, ?_⟩
  dsimp only [ContactReply.result]
  rw [h]
  exact yields_pure.mpr ⟨rfl, rfl⟩

theorem signatureOf_sample :
    signatureOf (.obj [("bytes", .str (sampleHex 128))]) = some (sampleHex 128) := by
  decide +kernel

theorem validateBootstrapResponse_sample (body : List UInt8) :
    validateBootstrapResponse readers request body = .ok answer := by
  refine Option.okOr_bind_eq_ok.mpr ⟨answer, rfl, require_bind_eq_ok.mpr ⟨?_, ?_⟩⟩
  · refine ⟨rfl, rfl, by decide, by decide, ?_, by decide, by decide, rfl, rfl⟩
    show sampleHex 64 ≠ ""
    exact fun h => absurd ((size_sampleHex 64).symm.trans (congrArg String.utf8ByteSize h)) (by decide)
  · exact require_bind_eq_ok.mpr ⟨⟨rfl, rfl, rfl⟩, rfl⟩

theorem yields_post :
    Yields (postRequest policy readers endpoint request) ((trace.drop 6).map Stamped.event)
      (.ok answer) := by
  have hjudge : judgeResponse readers request (.ok ⟨200, []⟩) = .ok answer := by
    rw [judgeResponse, if_pos ⟨by decide, by decide⟩, validateBootstrapResponse_sample]
  have hsecond : Yields (retry (attemptContact readers endpoint request)
      (pauseBefore policy AttemptError.isRetryable) 1 1) ((trace.drop 9).map Stamped.event)
      (.ok answer) := by
    refine yields_bind.mpr ⟨_, [], .ok answer, (List.append_nil _).symm, ?_,
      yields_pure.mpr ⟨rfl, rfl⟩⟩
    exact yields_perform_bind.mpr ⟨_, [], rfl, yields_pure.mpr ⟨rfl, hjudge⟩⟩
  refine yields_bind.mpr ⟨_, [], .ok answer, (List.append_nil _).symm, ?_,
    yields_pure.mpr ⟨rfl, rfl⟩⟩
  refine yields_bind.mpr ⟨((trace.drop 6).take 1).map Stamped.event, _, .error .retryable, rfl,
    yields_perform_bind.mpr ⟨_, [], rfl, yields_pure.mpr ⟨rfl, rfl⟩⟩, ?_⟩
  refine yields_bind.mpr ⟨((trace.drop 7).take 2).map Stamped.event, _, true, rfl, ?_, hsecond⟩
  refine yields_perform_bind.mpr ⟨_, _, rfl, yields_perform_bind.mpr ⟨_, [], rfl, ?_⟩⟩
  exact yields_pure.mpr ⟨rfl, rfl⟩

theorem yields_trace :
    Yields (establishRuntimeContactWith policy readers "https://core")
      (trace.map Stamped.event) (.ok answer) := by
  refine yields_bind.mpr ⟨_, (trace.drop 3).map Stamped.event, _, rfl, yields_discover, ?_⟩
  refine yields_perform_bind.mpr ⟨_, _, rfl, yields_perform_bind.mpr ⟨_, _, rfl, ?_⟩⟩
  exact yields_bind.mpr ⟨_, _, _, rfl, yields_signRequest signatureOf_sample, yields_post⟩

theorem lasts_trace : Lasts (· = ·) (ContactClocks 0) 0 trace 16 := by
  have hstamp : ContactClocks 0 ⟨.unixTimeMs, .unixTime (some 0), 0, 0⟩ := by
    intro ms hms
    exact ⟨0, le_refl _, le_refl _, (Option.some.inj hms).symm⟩
  refine ⟨rfl, le_refl _, trivial, rfl, le_refl _, trivial, rfl, le_refl _, trivial, ?_⟩
  refine ⟨rfl, le_refl _, trivial, rfl, le_refl _, hstamp, rfl, le_refl _, trivial, ?_⟩
  refine ⟨rfl, by decide, trivial, rfl, le_refl _, ⟨rfl, rfl⟩, rfl, by decide, rfl, ?_⟩
  exact ⟨rfl, by decide, trivial, rfl⟩

end ContactSample

open ContactSample in
/-- The second of two posts is answered, within the time of the policy. -/
theorem second_post_answered :
    (posts trace).length = 2
      ∧ ∃ endpoint request, contactEndpoint readers "https://core" = .ok endpoint
        ∧ (∀ p ∈ posts trace, p = (endpoint, SignedRuntimeBootstrapRequest.body request))
        ∧ AnsweredTo readers request trace answer := by
  have hkept := contact_kept (show 1 ≤ ContactSample.policy.maxAttempts by decide)
    (show ContactSample.policy.maxElapsed ≤ 60 * 10 ^ 9 by decide) yields_trace lasts_trace
  refine ⟨rfl, ?_⟩
  cases hkept.2.2.2 with
  | inl hnone => exact absurd hnone.1 nofun
  | inr hposted =>
    obtain ⟨endpoint, request, hendpoint, hposts, -, hanswered⟩ := hposted
    exact ⟨endpoint, request, hendpoint, hposts, hanswered _ rfl⟩
