import Mathlib.Order.Bounds.Basic
import Workday.Client

/-!
# Chains of redirects

A request for a URL is replied to or not, and a reply refers to another URL or to none. From there on
the whole chain of requests is told without the client that follows it: which URL so many redirects lead
to, whether a reply is the last one, whether a request gets none. A chain comes to one end only, and the
client comes to the same one, after as many requests as the chain has redirects, and one more.
-/

set_option autoImplicit false

namespace Workday

variable {network : Network} {n j k limit left : Nat} {url next next' last last' : Url}
  {reply reply' : Reply}

/-- A reply to a request for one URL refers to another. -/
def Reply.RefersTo (reply : Reply) (url next : Url) : Prop :=
  reply.status ∈ [301, 302, 303, 307, 308] ∧
    ∃ location, reply.location = some location ∧ url.resolve location = .ok next

/-- The client goes on to where a reply refers, and only there. -/
theorem Reply.redirection?_eq_some_iff :
    reply.redirection? url = some next ↔ reply.RefersTo url next := by
  unfold redirection? RefersTo
  by_cases hstatus : reply.status ∈ [301, 302, 303, 307, 308]
  · rw [if_pos (List.contains_iff_mem.mpr hstatus), Option.bind_eq_some_iff, and_iff_right hstatus]
    refine exists_congr fun location => and_congr_right fun _ => ?_
    cases url.resolve location <;> simp [Except.toOption]
  · rw [if_neg (mt List.contains_iff_mem.mp hstatus)]
    exact iff_of_false (Option.some_ne_none next).symm fun h => hstatus h.1

/-- The client goes nowhere if a reply refers nowhere. -/
theorem Reply.redirection?_eq_none_iff :
    reply.redirection? url = none ↔ ∀ next, ¬ reply.RefersTo url next := by
  simp only [Option.eq_none_iff_forall_ne_some, ne_eq, redirection?_eq_some_iff]

theorem Reply.RefersTo.eq (h : reply.RefersTo url next) (h' : reply.RefersTo url next') :
    next = next' :=
  Option.some.inj ((redirection?_eq_some_iff.mpr h).symm.trans (redirection?_eq_some_iff.mpr h'))

namespace Network

/-- The n-th request, one for a URL, gets a reply: the URL can be requested, and the request is replied
to. -/
def Replies (network : Network) (n : Nat) (url : Url) (reply : Reply) : Prop :=
  Client.isRequestable url = true ∧ network.answer n = some (.reply reply)

/-- A request has one reply. -/
theorem Replies.eq (h : network.Replies n url reply) (h' : network.Replies n url reply') :
    reply = reply' := by
  have hanswer := h.2.symm.trans h'.2
  injection hanswer with hanswer
  injection hanswer

/-- So many redirects lead from the URL of the n-th request to another URL. -/
inductive Leads (network : Network) : Nat → Url → Nat → Url → Prop
  | nowhere {n : Nat} {url : Url} : Leads network n url 0 url
  | on {n k : Nat} {url next last : Url} {reply : Reply} (replied : network.Replies n url reply)
      (refers : reply.RefersTo url next) (rest : Leads network (n + 1) next k last) :
      Leads network n url (k + 1) last

/-- The n-th request, one for a URL, is not referred on. -/
def Stops (network : Network) (n : Nat) (url : Url) : Prop :=
  ∀ reply, network.Replies n url reply → ∀ next, ¬ reply.RefersTo url next

/-- A chain stops at a reply that refers nowhere. -/
theorem Replies.stops (h : network.Replies n url reply) (hlast : ∀ next, ¬ reply.RefersTo url next) :
    network.Stops n url :=
  fun _ h' => h.eq h' ▸ hlast

/-- A chain that does not stop goes on by a reply that refers to somewhere. -/
theorem exists_refersTo_of_not_stops (h : ¬ network.Stops n url) :
    ∃ reply next, network.Replies n url reply ∧ reply.RefersTo url next := by
  simp only [Stops, not_forall, not_not] at h
  obtain ⟨reply, hreplies, next, hrefers⟩ := h
  exact ⟨reply, next, hreplies, hrefers⟩

namespace Leads

/-- So many redirects lead to one place. -/
theorem eq (h : network.Leads n url k last) (h' : network.Leads n url k last') : last = last' := by
  induction h with
  | nowhere =>
    cases h'
    rfl
  | on replied refers _ ih =>
    cases h' with
    | on replied' refers' rest' =>
      cases replied.eq replied'
      cases refers.eq refers'
      exact ih rest'

/-- A chain that stops is no shorter than any from the same start. -/
theorem le_of_stops (h : network.Leads n url k last) (hstops : network.Stops (n + k) last)
    (h' : network.Leads n url j last') : j ≤ k := by
  induction h generalizing j with
  | nowhere =>
    cases h' with
    | nowhere => exact Nat.le_refl 0
    | on replied refers _ => exact absurd refers (hstops _ replied _)
  | @on n k url next last reply replied refers _ ih =>
    cases h' with
    | nowhere => exact Nat.zero_le (k + 1)
    | on replied' refers' rest' =>
      cases replied.eq replied'
      cases refers.eq refers'
      refine Nat.succ_le_succ (ih ?_ rest')
      rwa [Nat.add_succ, ← Nat.succ_add] at hstops

/-- A chain stops at one place, after one number of redirects. -/
theorem eq_of_stops (h : network.Leads n url k last) (hstops : network.Stops (n + k) last)
    (h' : network.Leads n url j last') (hstops' : network.Stops (n + j) last') :
    k = j ∧ last = last' := by
  obtain rfl : k = j := Nat.le_antisymm (h'.le_of_stops hstops' h) (h.le_of_stops hstops h')
  exact ⟨rfl, h.eq h'⟩

/-- What can be requested at the end of a chain was asked for by requests before. -/
theorem isRequestable (h : network.Leads n url k last) (hlast : Client.isRequestable last = true) :
    Client.isRequestable url = true := by
  cases h with
  | nowhere => exact hlast
  | on replied _ _ => exact replied.1

end Leads

/-! ## The ends of a chain -/

/-- The request comes to a reply, after no more redirects than the limit, that refers to no other URL. -/
def ComesTo (network : Network) (limit n : Nat) (url : Url) (reply : Reply) : Prop :=
  ∃ k last, k ≤ limit ∧ network.Leads n url k last ∧ network.Replies (n + k) last reply ∧
    ∀ next, ¬ reply.RefersTo last next

/-- The request comes, after no more redirects than the limit, to one that gets no reply. -/
def GoesUnanswered (network : Network) (limit n : Nat) (url : Url) : Prop :=
  ∃ k last, k ≤ limit ∧ network.Leads n url k last ∧
    ∀ reply, ¬ network.Replies (n + k) last reply

/-- The request is redirected more often than the limit allows. -/
def GoesTooFar (network : Network) (limit n : Nat) (url : Url) : Prop :=
  ∃ last, network.Leads n url (limit + 1) last

/-- The redirects that are followed: no more than the limit, and as many as lead to a URL that can be
requested. -/
def Follows (network : Network) (limit n : Nat) (url : Url) (k : Nat) : Prop :=
  IsGreatest {k | k ≤ limit ∧ ∃ last, network.Leads n url k last ∧ Client.isRequestable last = true} k

/-- A chain comes to one reply. -/
theorem ComesTo.eq (h : network.ComesTo limit n url reply)
    (h' : network.ComesTo limit n url reply') : reply = reply' := by
  obtain ⟨k, last, -, hleads, hreplies, hlast⟩ := h
  obtain ⟨k', last', -, hleads', hreplies', hlast'⟩ := h'
  obtain ⟨rfl, rfl⟩ := hleads.eq_of_stops (hreplies.stops hlast) hleads' (hreplies'.stops hlast')
  exact hreplies.eq hreplies'

/-- What holds of some reply that a chain comes to holds of the one it comes to. -/
theorem ComesTo.exists_and_iff {p : Reply → Prop} (h : network.ComesTo limit n url reply) :
    (∃ reply, network.ComesTo limit n url reply ∧ p reply) ↔ p reply :=
  ⟨fun ⟨_, h', hp⟩ => h.eq h' ▸ hp, fun hp => ⟨reply, h, hp⟩⟩

/-- A chain that comes to a reply is not left without one. -/
theorem ComesTo.not_goesUnanswered (h : network.ComesTo limit n url reply) :
    ¬ network.GoesUnanswered limit n url := by
  rintro ⟨k', last', -, hleads', hnone⟩
  obtain ⟨k, last, -, hleads, hreplies, hlast⟩ := h
  have hstops : network.Stops (n + k') last' := fun reply hreply => absurd hreply (hnone reply)
  obtain ⟨rfl, rfl⟩ := hleads.eq_of_stops (hreplies.stops hlast) hleads' hstops
  exact hnone reply hreplies

/-- A chain that comes to a reply does not go too far. -/
theorem ComesTo.not_goesTooFar (h : network.ComesTo limit n url reply) :
    ¬ network.GoesTooFar limit n url := by
  rintro ⟨last', hleads'⟩
  obtain ⟨k, last, hk, hleads, hreplies, hlast⟩ := h
  have hle := hleads.le_of_stops (hreplies.stops hlast) hleads'
  omega

/-- A chain that is left without a reply, or goes too far, comes to none. -/
theorem not_comesTo (h : network.GoesUnanswered limit n url ∨ network.GoesTooFar limit n url)
    (reply : Reply) : ¬ network.ComesTo limit n url reply :=
  fun hreply => not_or.mpr ⟨hreply.not_goesUnanswered, hreply.not_goesTooFar⟩ h

/-! ## One redirect more in front -/

section Cons

variable (hreplies : network.Replies n url reply) (hrefers : reply.RefersTo url next)
include hreplies hrefers

/-- What a chain comes to behind its first redirect it comes to. -/
theorem ComesTo.cons (h : network.ComesTo limit (n + 1) next reply') :
    network.ComesTo (limit + 1) n url reply' := by
  obtain ⟨k, last, hk, hleads, hreplies', hstops⟩ := h
  refine ⟨k + 1, last, Nat.succ_le_succ hk, .on hreplies hrefers hleads, ?_, hstops⟩
  rwa [Nat.add_succ, ← Nat.succ_add]

/-- A chain that is left without a reply behind its first redirect is left without one. -/
theorem GoesUnanswered.cons (h : network.GoesUnanswered limit (n + 1) next) :
    network.GoesUnanswered (limit + 1) n url := by
  obtain ⟨k, last, hk, hleads, hnone⟩ := h
  refine ⟨k + 1, last, Nat.succ_le_succ hk, .on hreplies hrefers hleads, fun r hr => hnone r ?_⟩
  rwa [Nat.add_succ, ← Nat.succ_add] at hr

/-- A chain that goes too far behind its first redirect goes too far. -/
theorem GoesTooFar.cons (h : network.GoesTooFar limit (n + 1) next) :
    network.GoesTooFar (limit + 1) n url := by
  obtain ⟨last, hleads⟩ := h
  exact ⟨last, .on hreplies hrefers hleads⟩

/-- The redirects of a chain are the first one and those behind it. -/
theorem Follows.cons (h : network.Follows limit (n + 1) next k) :
    network.Follows (limit + 1) n url (k + 1) := by
  obtain ⟨⟨hk, last, hleads, hlast⟩, hgreatest⟩ := h
  refine ⟨⟨Nat.succ_le_succ hk, last, .on hreplies hrefers hleads, hlast⟩, ?_⟩
  rintro j ⟨hj, last', hleads', hlast'⟩
  cases hleads' with
  | nowhere => exact Nat.zero_le (k + 1)
  | on replied refers rest =>
    cases hreplies.eq replied
    cases hrefers.eq refers
    exact Nat.succ_le_succ (hgreatest ⟨Nat.le_of_succ_le_succ hj, last', rest, hlast'⟩)

end Cons

/-- No redirect is followed from a request that is not referred on to a URL that can be requested. -/
theorem follows_zero (hurl : Client.isRequestable url = true)
    (hstops : ∀ reply next, network.Replies n url reply → reply.RefersTo url next →
      limit = 0 ∨ Client.isRequestable next = false) :
    network.Follows limit n url 0 := by
  refine ⟨⟨Nat.zero_le limit, url, .nowhere, hurl⟩, ?_⟩
  rintro j ⟨hj, last, hleads, hlast⟩
  cases hleads with
  | nowhere => exact Nat.le_refl 0
  | on replied refers rest =>
    rcases hstops _ _ replied refers with hzero | hnext
    · omega
    · rw [rest.isRequestable hlast] at hnext
      cases hnext

end Network

/-! ## The client on the chain -/

namespace Client

open Network

/-- An ending tells of the chain from the n-th request on: the reply it comes to, or that it comes to
none, and how many requests it is. Of its requests only the last may reach no server. -/
structure Ending.TellsOf (ending : Ending) (network : Network) (limit n : Nat) (url : Url) : Prop where
  reply : ∀ reply, ending.result = .ok reply → network.ComesTo limit n url reply
  noReply : ∀ cause, ending.result = .error cause →
    network.GoesUnanswered limit n url ∨ network.GoesTooFar limit n url
  requests : ∃ k, network.Follows limit n url k ∧
    ending.requests = n + k + if network.answer (n + k) = none then 0 else 1

/-- A request that fails at once tells of a chain which ends there. -/
theorem Ending.tellsOf_error {cause : TransportCause} {elapsed requests : Nat}
    (hlost : network.GoesUnanswered limit n url ∨ network.GoesTooFar limit n url)
    (hfollows : network.Follows limit n url 0)
    (hrequests : requests = n + if network.answer n = none then 0 else 1) :
    (⟨.error cause, elapsed, requests⟩ : Ending).TellsOf network limit n url where
  reply := nofun
  noReply _ _ := hlost
  requests := ⟨0, hfollows, hrequests⟩

/-- A request that is not referred on is the only one. It may get no reply at all, one that never comes,
or a reply that is the last of the chain. -/
theorem follow_tellsOf_of_stops (timeout : Nat) (first : Url) (hurl : isRequestable url = true)
    (hstops : network.Stops n url) :
    (follow network timeout first left url n).TellsOf network left n url := by
  have hfollows : network.Follows left n url 0 :=
    follows_zero hurl fun reply next hreplies hrefers => absurd hrefers (hstops reply hreplies next)
  have hlost (hanswer : ∀ reply, network.answer n ≠ some (.reply reply)) :
      network.GoesUnanswered left n url := by
    refine ⟨0, url, Nat.zero_le left, .nowhere, ?_⟩
    intro reply hreplies
    exact hanswer reply hreplies.2
  unfold follow
  cases hanswer : network.answer n with
  | none =>
    apply Ending.tellsOf_error _ hfollows
    · simp [hanswer]
    · exact .inl (hlost (by simp [hanswer]))
  | some answer =>
    cases answer with
    | closed | silent =>
      apply Ending.tellsOf_error _ hfollows
      · simp [hanswer]
      · exact .inl (hlost (by simp [hanswer]))
    | reply reply =>
      have hlast := hstops reply ⟨hurl, hanswer⟩
      simp only [Reply.redirection?_eq_none_iff.mpr hlast]
      refine ⟨?_, nofun, 0, hfollows, by simp [hanswer]⟩
      intro reply' hreply
      cases hreply
      exact ⟨0, url, Nat.zero_le left, .nowhere, ⟨hurl, hanswer⟩, hlast⟩

/-- If no redirect may follow, a reply that refers on is a failure, and the URL in it is that of the
reply. -/
theorem follow_zero_of_refersTo (timeout : Nat) (first : Url)
    (hanswer : network.answer n = some (.reply reply)) (hrefers : reply.RefersTo url next) :
    follow network timeout first 0 url n = ⟨.error (.tooManyRedirects url.format), 0, n + 1⟩ := by
  rw [follow]
  simp only [hanswer, Reply.redirection?_eq_some_iff.mpr hrefers]

/-- A reply that refers on is followed if the place can be asked at all; if not, the failure names
that place. -/
theorem follow_succ_of_refersTo (timeout : Nat) (first : Url)
    (hanswer : network.answer n = some (.reply reply)) (hrefers : reply.RefersTo url next) :
    follow network timeout first (left + 1) url n =
      if isRequestable next then follow network timeout first left next (n + 1)
      else ⟨.error (.unusableScheme next.format), 0, n + 1⟩ := by
  rw [follow]
  simp only [hanswer, Reply.redirection?_eq_some_iff.mpr hrefers]

/-- What tells of the chain behind a redirect tells of the chain with it. -/
theorem Ending.TellsOf.cons {ending : Ending} (hreplies : network.Replies n url reply)
    (hrefers : reply.RefersTo url next) (h : ending.TellsOf network limit (n + 1) next) :
    ending.TellsOf network (limit + 1) n url := by
  obtain ⟨k, hfollows, hrequests⟩ := h.requests
  refine ⟨?_, ?_, k + 1, hfollows.cons hreplies hrefers, ?_⟩
  · intro reply' hreply
    exact (h.reply reply' hreply).cons hreplies hrefers
  · intro cause hcause
    exact (h.noReply cause hcause).imp (.cons hreplies hrefers) (.cons hreplies hrefers)
  · rwa [Nat.add_succ, ← Nat.succ_add]

/-- The client comes to the end of the chain. The induction is on the redirects that are still allowed;
where none is left the next one goes too far, and else the chain from there on has one less. -/
theorem follow_tellsOf (timeout : Nat) (first : Url) (hurl : isRequestable url = true) :
    (follow network timeout first left url n).TellsOf network left n url := by
  induction left generalizing n url with
  | zero =>
    by_cases hstops : network.Stops n url
    · exact follow_tellsOf_of_stops timeout first hurl hstops
    · obtain ⟨reply, next, hreplies, hrefers⟩ := exists_refersTo_of_not_stops hstops
      rw [follow_zero_of_refersTo timeout first hreplies.2 hrefers]
      apply Ending.tellsOf_error
      · exact .inr ⟨next, .on hreplies hrefers .nowhere⟩
      · exact follows_zero hurl fun _ _ _ _ => .inl rfl
      · simp [hreplies.2]
  | succ left ih =>
    by_cases hstops : network.Stops n url
    · exact follow_tellsOf_of_stops timeout first hurl hstops
    obtain ⟨reply, next, hreplies, hrefers⟩ := exists_refersTo_of_not_stops hstops
    rw [follow_succ_of_refersTo timeout first hreplies.2 hrefers]
    -- a place that cannot be requested ends the chain like a server that does not reply
    cases hnext : isRequestable next with
    | true =>
      rw [if_pos rfl]
      exact (ih hnext).cons hreplies hrefers
    | false =>
      rw [if_neg Bool.false_ne_true]
      apply Ending.tellsOf_error
      · refine .inl ⟨1, next, Nat.succ_le_succ (Nat.zero_le left), .on hreplies hrefers .nowhere, ?_⟩
        intro reply' hreplies'
        rw [hreplies'.1] at hnext
        cases hnext
      · apply follows_zero hurl
        intro reply' next' hreplies' hrefers'
        cases hreplies.eq hreplies'
        cases hrefers.eq hrefers'
        exact .inr hnext
      · simp [hreplies.2]

end Client
end Workday
