import Owprov.Authentication

/-!
# Requests that the security service vouched for

Whatever the interleaving of requests and messages, a request is let in only by an answer of a
service that was known as a security service when it was asked: its own answer, or one that was
cached and not removed since.
-/

namespace Owprov

open RowTable FrontEnd

/-! ## What happened -/

def FrontEvent.message? : FrontEvent → Option BusMessage
  | .bus message => some message
  | _ => none

def busMessages (history : List FrontEvent) : List BusMessage :=
  history.filterMap FrontEvent.message?

/-- The request came with the credential. -/
def Looked (history : List FrontEvent) (tid : ℕ) (credential : Credential) : Prop :=
  ∃ initial now, .look tid credential initial now ∈ history

/-- The service was the first of the security services when the request asked. -/
def Asked (env : BusEnv) (history : List FrontEvent) (tid : ℕ) (service : MicroServiceMeta) :
    Prop :=
  ∃ before after, history = before ++ .ask tid :: after ∧
    (getServices (servicesAfter env (busMessages before)) securityService).head? = some service

/-- The service that the request asked answered with a grant. -/
def Vouched (env : BusEnv) (history : List FrontEvent) (tid : ℕ) (credential : Credential)
    (grant : TokenGrant) : Prop :=
  ∃ before after reply now attempt service,
    history = before ++ .reply tid reply now :: after ∧ Looked before tid credential ∧
      Asked env before tid service ∧ retrieve env credential attempt now reply = .granted grant

/-- The event removes what is cached for a credential. -/
def FrontEvent.Removes (env : BusEnv) (credential : Credential) : FrontEvent → Prop
  | .bus message => message.removes env = some credential.text
  | .evict evicted => evicted = credential
  | .stop => ∃ text, credential = .token text
  | _ => False

/-- A grant was cached and not removed since. -/
def Kept (env : BusEnv) (history : List FrontEvent) (credential : Credential) (grant : TokenGrant) :
    Prop :=
  ∃ before after tid, history = before ++ .fill tid :: after ∧
    Vouched env before tid credential grant ∧ ∀ event ∈ after, ¬ event.Removes env credential

/-- A cached grant answers at a time: a token has not expired, and an API key has. -/
def TokenGrant.AnswersAt (grant : TokenGrant) (now : UInt64) : Credential → Prop
  | .token _ => isTokenExpired grant.userInfo.webtoken now = false
  | .apiKey _ => grant.expiresOn < now

/-- A request was let in by its own answer, or by a cached one. -/
def LetIn (env : BusEnv) (history : List FrontEvent) (tid : ℕ) (credential : Credential)
    (uInfo : UserInfoAndPolicy) : Prop :=
  ∃ grant : TokenGrant, grant.userInfo = uInfo ∧
    ((∃ before after, history = before ++ .fill tid :: after ∧
        Vouched env before tid credential grant) ∨
      ∃ before after initial now, history = before ++ .look tid credential initial now :: after ∧
        Kept env before credential grant ∧ grant.AnswersAt now credential)

section History

variable {env : BusEnv} {history : List FrontEvent} {event : FrontEvent} {tid : ℕ}
  {credential : Credential} {grant : TokenGrant} {uInfo : UserInfoAndPolicy}

theorem append_extends {before after : List FrontEvent} {first : FrontEvent}
    (split : history = before ++ first :: after) :
    history ++ [event] = before ++ first :: (after ++ [event]) := by
  rw [split, List.append_assoc, List.cons_append]

theorem Looked.append (looked : Looked history tid credential) :
    Looked (history ++ [event]) tid credential := by
  obtain ⟨initial, now, member⟩ := looked
  exact ⟨initial, now, List.mem_append_left _ member⟩

theorem Asked.append {service : MicroServiceMeta} (asked : Asked env history tid service) :
    Asked env (history ++ [event]) tid service := by
  obtain ⟨before, after, split, first⟩ := asked
  exact ⟨before, after ++ [event], append_extends split, first⟩

theorem Vouched.append (vouched : Vouched env history tid credential grant) :
    Vouched env (history ++ [event]) tid credential grant := by
  obtain ⟨before, after, reply, now, attempt, service, split, rest⟩ := vouched
  exact ⟨before, after ++ [event], reply, now, attempt, service, append_extends split, rest⟩

theorem LetIn.append (letIn : LetIn env history tid credential uInfo) :
    LetIn env (history ++ [event]) tid credential uInfo := by
  obtain ⟨grant, same, ⟨before, after, split, vouched⟩ |
    ⟨before, after, initial, now, split, kept⟩⟩ := letIn
  · exact ⟨grant, same, .inl ⟨before, after ++ [event], append_extends split, vouched⟩⟩
  · exact ⟨grant, same, .inr ⟨before, after ++ [event], initial, now, append_extends split, kept⟩⟩

theorem Kept.append (kept : Kept env history credential grant)
    (stays : ¬ event.Removes env credential) : Kept env (history ++ [event]) credential grant := by
  obtain ⟨before, after, tid, split, vouched, since⟩ := kept
  refine ⟨before, after ++ [event], tid, append_extends split, vouched, fun other member => ?_⟩
  rcases List.mem_append.mp member with member | member
  · exact since other member
  · rw [List.mem_singleton.mp member]
    exact stays

theorem busMessages_append :
    busMessages (history ++ [event]) = busMessages history ++ event.message?.toList := by
  rw [busMessages, List.filterMap_append, busMessages]
  cases event <;> rfl

end History

/-! ## The caches -/

namespace AuthClient

variable {client : AuthClient} {credential other : Credential} {grant : TokenGrant}

/-- What a cache holds. -/
def cachedGrant (client : AuthClient) : Credential → Option TokenGrant
  | .token text => (client.cache text).map fun user => { userInfo := user }
  | .apiKey text =>
      (client.apiKeyCache text).map fun user =>
        { userInfo := user.userInfo, expiresOn := user.expiresOn }

theorem cachedGrant_update_of_ne (differs : other ≠ credential) :
    (client.update grant credential).cachedGrant other = client.cachedGrant other := by
  cases credential <;> cases other <;> simp_all [update, cachedGrant]

theorem cachedGrant_update_self (ofToken : ∀ text, credential = .token text → grant.expiresOn = 0) :
    (client.update grant credential).cachedGrant credential = some grant := by
  obtain ⟨userInfo, expiresOn⟩ := grant
  cases credential with
  | token text =>
      have none : expiresOn = 0 := ofToken text rfl
      simp [update, cachedGrant, none]
  | apiKey text => simp [update, cachedGrant]

theorem cachedGrant_remove :
    (client.remove credential).cachedGrant other =
      if other = credential then none else client.cachedGrant other := by
  cases credential <;> cases other <;> rename_i text text' <;>
    by_cases same : text' = text <;> simp [remove, cachedGrant, same]

theorem cachedGrant_removedCachedToken {token : String}
    (found : (client.removedCachedToken token).cachedGrant other = some grant) :
    client.cachedGrant other = some grant ∧ other.text ≠ token := by
  rw [removedCachedToken, cachedGrant_remove, cachedGrant_remove] at found
  cases other <;> simp_all [Credential.text]

theorem cachedGrant_stop (found : client.stop.cachedGrant other = some grant) :
    client.cachedGrant other = some grant ∧ ¬ ∃ text, other = .token text := by
  cases other with
  | token text => cases found
  | apiKey text => exact ⟨found, by simp⟩

theorem lookup_eq_answered_iff {now : UInt64} {uInfo : UserInfoAndPolicy} :
    client.lookup now credential = .answered uInfo ↔
      ∃ grant, client.cachedGrant credential = some grant ∧ grant.userInfo = uInfo ∧
        grant.AnswersAt now credential := by
  cases credential with
  | token text =>
      cases cached : client.cache text with
      | none => simp [lookup, cachedGrant, cached]
      | some user =>
          by_cases expired : isTokenExpired user.webtoken now = true <;>
            simp [lookup, cachedGrant, cached, expired, TokenGrant.AnswersAt]
  | apiKey text =>
      cases cached : client.apiKeyCache text with
      | none => simp [lookup, cachedGrant, cached]
      | some user =>
          by_cases expired : user.expiresOn < now <;>
            simp [lookup, cachedGrant, cached, expired, TokenGrant.AnswersAt]

end AuthClient

/-! ## Runs -/

/-- Only a token's grant comes without an expiry. -/
theorem expiresOn_of_retrieve {env : BusEnv} {text : String} {attempt : Attempt} {now : UInt64}
    {reply : Reply} {grant : TokenGrant}
    (granted : retrieve env (.token text) attempt now reply = .granted grant) :
    grant.expiresOn = 0 := by
  simp only [retrieve, retrieveTokenInformation] at granted
  split at granted
  · cases granted
  · cases granted
  · split at granted
    · split at granted
      · cases granted
      · cases granted
        rfl
    · cases granted

/-- What the phase of a request says about the past. -/
def Explained (env : BusEnv) (history : List FrontEvent) (tid : ℕ) : AuthPhase → Prop
  | .idle => True
  | .dropping credential _ => Looked history tid credential
  | .asking credential _ _ => Looked history tid credential
  | .waiting credential _ _ service => Looked history tid credential ∧ Asked env history tid service
  | .updating credential grant => Vouched env history tid credential grant
  | .accepted credential uInfo => LetIn env history tid credential uInfo
  | .denied _ _ => True

/-- The state is explained by the events that led to it. -/
structure Provenance (env : BusEnv) (history : List FrontEvent) (s : FrontEnd) : Prop where
  services : s.services = servicesAfter env (busMessages history)
  phases : ∀ tid, Explained env history tid (s.phase tid)
  cached : ∀ credential grant, s.client.cachedGrant credential = some grant →
    Kept env history credential grant

section Runs

variable {env : BusEnv} {history : List FrontEvent} {event : FrontEvent} {s t : FrontEnd}
  {tid : ℕ} {credential : Credential}

theorem Explained.append {phase : AuthPhase} (explained : Explained env history tid phase) :
    Explained env (history ++ [event]) tid phase := by
  cases phase with
  | idle => trivial
  | dropping credential attempt => exact Looked.append explained
  | asking credential sub attempt => exact Looked.append explained
  | waiting credential sub attempt service => exact ⟨explained.1.append, explained.2.append⟩
  | updating credential grant => exact Vouched.append explained
  | accepted credential uInfo => exact LetIn.append explained
  | denied credential attempt => trivial

/-- Nobody but the request itself moves on. -/
theorem Provenance.setPhase (provenance : Provenance env history s) {phase : AuthPhase}
    (explained : Explained env (history ++ [event]) tid phase) (other : ℕ) :
    Explained env (history ++ [event]) other ((s.setPhase tid phase).phase other) := by
  rw [FrontEnd.setPhase]
  dsimp only
  by_cases same : other = tid
  · subst same
    rw [Function.update_self]
    exact explained
  · rw [Function.update_of_ne same]
    exact (provenance.phases other).append

theorem explained_afterRejection {sub : Bool} {attempt : Attempt}
    (looked : Looked history tid credential) :
    Explained env history tid (afterRejection credential sub attempt) := by
  cases credential with
  | token text =>
      cases sub with
      | false => exact looked
      | true => trivial
  | apiKey text => cases sub <;> trivial

/-- What was there before the step is kept if the event does not remove it. -/
theorem Provenance.kept (provenance : Provenance env history s) {grant : TokenGrant}
    (found : s.client.cachedGrant credential = some grant) (stays : ¬ event.Removes env credential) :
    Kept env (history ++ [event]) credential grant :=
  (provenance.cached credential grant found).append stays

theorem Provenance.step (provenance : Provenance env history s) (step : Step env s event t) :
    Provenance env (history ++ [event]) t := by
  have quiet : event.message? = none →
      servicesAfter env (busMessages history) =
        servicesAfter env (busMessages (history ++ [event])) := by
    intro none
    rw [busMessages_append, none, Option.toList_none, List.append_nil]
  cases step with
  | @bus message =>
      refine ⟨?_, fun tid => (provenance.phases tid).append, fun credential grant found => ?_⟩
      · rw [FrontEnd.receive, provenance.services, busMessages_append, servicesAfter,
          servicesAfter, FrontEvent.message?, Option.toList_some, List.foldl_append]
        rfl
      · rw [FrontEnd.receive] at found
        dsimp only at found
        cases removes : message.removes env with
        | none =>
            rw [removes] at found
            exact provenance.kept found (by simp [FrontEvent.Removes, removes])
        | some token =>
            rw [removes] at found
            obtain ⟨found, differs⟩ := AuthClient.cachedGrant_removedCachedToken found
            exact provenance.kept found (by simp [FrontEvent.Removes, removes, Ne.symm differs])
  | @look tid credential initial now idle =>
      refine ⟨provenance.services.trans (quiet rfl), provenance.setPhase ?_,
        fun _ _ found => provenance.kept found id⟩
      have looked : Looked (history ++ [.look tid credential initial now]) tid credential :=
        ⟨initial, now, List.mem_append_right _ (List.mem_singleton_self _)⟩
      cases answer : s.client.lookup now credential with
      | missing => exact looked
      | stale => exact looked
      | answered uInfo =>
          obtain ⟨grant, found, same, answers⟩ := AuthClient.lookup_eq_answered_iff.mp answer
          exact ⟨grant, same, .inr ⟨history, [], initial, now, rfl,
            provenance.cached credential grant found, answers⟩⟩
  | @drop tid credential attempt dropping =>
      have looked := provenance.phases tid
      rw [dropping] at looked
      refine ⟨provenance.services.trans (quiet rfl), provenance.setPhase ?_,
        fun other grant found => ?_⟩
      · cases credential with
        | token text => trivial
        | apiKey text => exact Looked.append looked
      · rw [AuthClient.cachedGrant_remove] at found
        split at found
        · cases found
        · exact provenance.kept found id
  | @ask tid credential sub attempt asking =>
      have looked := provenance.phases tid
      rw [asking] at looked
      refine ⟨provenance.services.trans (quiet rfl), provenance.setPhase ?_,
        fun _ _ found => provenance.kept found id⟩
      cases known : getServices s.services securityService with
      | nil => exact explained_afterRejection (Looked.append looked)
      | cons service rest =>
          refine ⟨Looked.append looked, history, [], rfl, ?_⟩
          rw [← provenance.services, known]
          rfl
  | @reply tid credential sub attempt service reply now waiting =>
      have past := provenance.phases tid
      rw [waiting] at past
      refine ⟨provenance.services.trans (quiet rfl), provenance.setPhase ?_,
        fun _ _ found => provenance.kept found id⟩
      cases retrieval : retrieve env credential attempt now reply with
      | granted grant =>
          exact ⟨history, [], reply, now, attempt, service, rfl, past.1, past.2, retrieval⟩
      | rejected attempt' => exact explained_afterRejection past.1.append
  | @fill tid credential grant updating =>
      have vouched := provenance.phases tid
      rw [updating] at vouched
      refine ⟨provenance.services.trans (quiet rfl),
        provenance.setPhase ⟨grant, rfl, .inl ⟨history, [], rfl, vouched⟩⟩,
        fun other held found => ?_⟩
      have ofToken : ∀ text, credential = .token text → grant.expiresOn = 0 := by
        rintro text rfl
        obtain ⟨_, _, _, _, _, _, _, _, _, granted⟩ := vouched
        exact expiresOn_of_retrieve granted
      by_cases same : other = credential
      · subst same
        rw [AuthClient.cachedGrant_update_self ofToken] at found
        obtain rfl := Option.some.inj found
        exact ⟨history, [], tid, rfl, vouched, by simp⟩
      · rw [AuthClient.cachedGrant_update_of_ne same] at found
        exact provenance.kept found id
  | @evict credential =>
      refine ⟨provenance.services.trans (quiet rfl), fun tid => (provenance.phases tid).append,
        fun other grant found => ?_⟩
      rw [AuthClient.cachedGrant_remove] at found
      split at found
      · cases found
      · rename_i differs
        exact provenance.kept found fun removed => differs removed.symm
  | stop =>
      refine ⟨provenance.services.trans (quiet rfl), fun tid => (provenance.phases tid).append,
        fun other grant found => ?_⟩
      obtain ⟨found, differs⟩ := AuthClient.cachedGrant_stop found
      exact provenance.kept found differs

end Runs

/-- An answer that grants the credential is on its way into the cache. -/
def FrontEnd.Pending (s : FrontEnd) (credential : Credential) : Prop :=
  ∃ tid grant, s.phase tid = .updating credential grant

/-- A step in which no service grants the credential. -/
def UngrantedStep (env : BusEnv) (credential : Credential) (s t : FrontEnd) : Prop :=
  (∃ event, Step env s event t) ∧ ∀ tid grant, t.phase tid = .updating credential grant →
    s.phase tid = .updating credential grant

section Removal

variable {env : BusEnv} {s t u : FrontEnd} {credential : Credential} {tid : ℕ}
  {uInfo : UserInfoAndPolicy}

/-- Nothing is cached or about to be, and only those were let in that had been before. -/
structure Shut (before s : FrontEnd) (credential : Credential) : Prop where
  empty : s.client.cachedGrant credential = none
  nonePending : ¬ s.Pending credential
  noneNew : ∀ tid uInfo, s.phase tid = .accepted credential uInfo →
    before.phase tid = .accepted credential uInfo

theorem ne_accepted_afterRejection {sub : Bool} {attempt : Attempt} {other : Credential} :
    afterRejection other sub attempt ≠ .accepted credential uInfo := by
  cases other <;> cases sub <;> simp [afterRejection]

theorem phase_of_setPhase {phase target : AuthPhase} {tid other : ℕ} (differs : phase ≠ target)
    (isTarget : (s.setPhase tid phase).phase other = target) : s.phase other = target := by
  rw [FrontEnd.setPhase] at isTarget
  dsimp only at isTarget
  by_cases same : other = tid
  · subst same
    rw [Function.update_self] at isTarget
    exact absurd isTarget differs
  · rwa [Function.update_of_ne same] at isTarget

/-- Only a cached entry or a grant lets a request in. -/
theorem Shut.step {before : FrontEnd} (shut : Shut before s credential)
    (step : UngrantedStep env credential s t) : Shut before t credential := by
  obtain ⟨⟨event, step⟩, ungranted⟩ := step
  have nonePending : ¬ t.Pending credential := by
    rintro ⟨tid, grant, updating⟩
    exact shut.nonePending ⟨tid, grant, ungranted tid grant updating⟩
  cases step with
  | bus =>
      refine ⟨?_, nonePending, shut.noneNew⟩
      refine Option.eq_none_iff_forall_ne_some.mpr fun grant found => ?_
      rw [FrontEnd.receive] at found
      dsimp only at found
      split at found
      · rw [shut.empty] at found
        cases found
      · have kept := (AuthClient.cachedGrant_removedCachedToken found).1
        rw [shut.empty] at kept
        cases kept
  | @look tid other initial now idle =>
      refine ⟨shut.empty, nonePending, fun request uInfo accepted => ?_⟩
      refine shut.noneNew request uInfo (phase_of_setPhase ?_ accepted)
      intro answered
      cases answer : s.client.lookup now other with
      | missing =>
          rw [answer] at answered
          cases answered
      | stale =>
          rw [answer] at answered
          cases answered
      | answered found =>
          rw [answer] at answered
          cases answered
          obtain ⟨grant, cached, _⟩ := AuthClient.lookup_eq_answered_iff.mp answer
          rw [shut.empty] at cached
          cases cached
  | @drop tid other attempt dropping =>
      refine ⟨?_, nonePending, fun request uInfo accepted => ?_⟩
      · rw [AuthClient.cachedGrant_remove, shut.empty, ite_self]
      · refine shut.noneNew request uInfo (phase_of_setPhase ?_ accepted)
        cases other <;> simp [afterDrop]
  | @ask tid other sub attempt asking =>
      refine ⟨shut.empty, nonePending, fun request uInfo accepted => ?_⟩
      refine shut.noneNew request uInfo (phase_of_setPhase ?_ accepted)
      cases getServices s.services securityService with
      | nil => exact ne_accepted_afterRejection
      | cons service rest => simp [afterChoice]
  | @reply tid other sub attempt service reply now waiting =>
      refine ⟨shut.empty, nonePending, fun request uInfo accepted => ?_⟩
      refine shut.noneNew request uInfo (phase_of_setPhase ?_ accepted)
      cases retrieve env other attempt now reply with
      | granted grant => simp [afterRetrieval]
      | rejected attempt' => exact ne_accepted_afterRejection
  | @fill tid other grant updating =>
      have differs : other ≠ credential := by
        rintro rfl
        exact shut.nonePending ⟨tid, grant, updating⟩
      refine ⟨?_, nonePending, fun request uInfo accepted => ?_⟩
      · rw [AuthClient.cachedGrant_update_of_ne differs.symm, shut.empty]
      · refine shut.noneNew request uInfo (phase_of_setPhase ?_ accepted)
        simp [differs]
  | evict =>
      refine ⟨?_, nonePending, shut.noneNew⟩
      rw [AuthClient.cachedGrant_remove, shut.empty, ite_self]
  | stop =>
      refine ⟨?_, nonePending, shut.noneNew⟩
      refine Option.eq_none_iff_forall_ne_some.mpr fun grant found => ?_
      have kept := (AuthClient.cachedGrant_stop found).1
      rw [shut.empty] at kept
      cases kept

theorem Shut.run {before : FrontEnd} (shut : Shut before s credential)
    (run : Relation.ReflTransGen (UngrantedStep env credential) s t) : Shut before t credential := by
  induction run with
  | refl => exact shut
  | tail _ last ih => exact ih.step last

end Removal

end Owprov
