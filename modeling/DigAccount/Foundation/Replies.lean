import DigAccount.Foundation.Interleaving

namespace Reads

variable {Q : Type} {A : Q → Type} {α : Type}

def tracedFrom (past : List (Σ q, A q)) : Reads Q A α → Reads Q A (List (Σ q, A q) × α)
  | ret value => ret (past, value)
  | ask q next => ask q fun answer => tracedFrom (⟨q, answer⟩ :: past) (next answer)

def traced (p : Reads Q A α) : Reads Q A (List (Σ q, A q) × α) := tracedFrom [] p

end Reads

namespace Interleaving

variable {σ Q ι ε β κ : Type} {A : Q → Type}

structure Attended (σ Q : Type) (A : Q → Type) (β : Type) where
  system : System σ Q A β
  replies : List β

def Attended.idle (shared : σ) : Attended σ Q A β := ⟨.idle shared, []⟩

def System.reply (s : System σ Q A β) : Action ι ε → Option β
  | .step thread =>
      match s.threads thread with
      | some (.ret value) => some value
      | _ => none
  | _ => none

namespace Attended

section Step

variable (perform : σ → (q : Q) → A q × σ) (program : ι → Reads Q A β) (disturb : ε → σ → σ)

def next (w : Attended σ Q A β) (action : Action ι ε) : Option (Attended σ Q A β) :=
  (Interleaving.next perform program disturb w.system action).map fun system =>
    ⟨system, (w.system.reply action).toList ++ w.replies⟩

inductive Moves (w : Attended σ Q A β) : Action ι ε → Attended σ Q A β → Prop where
  | call {thread : Nat} {operation : ι} : w.system.threads thread = none →
      Moves w (.call thread operation)
        ⟨⟨w.system.shared, Function.update w.system.threads thread (some (program operation))⟩,
          w.replies⟩
  | reply {thread : Nat} {value : β} : w.system.threads thread = some (.ret value) →
      Moves w (.step thread)
        ⟨⟨w.system.shared, Function.update w.system.threads thread none⟩, value :: w.replies⟩
  | access {thread : Nat} {q : Q} {rest : A q → Reads Q A β} :
      w.system.threads thread = some (.ask q rest) →
      Moves w (.step thread)
        ⟨⟨(perform w.system.shared q).2, Function.update w.system.threads thread
          (some (rest (perform w.system.shared q).1))⟩, w.replies⟩
  | disturb {event : ε} :
      Moves w (.disturb event) ⟨⟨disturb event w.system.shared, w.system.threads⟩, w.replies⟩

end Step

variable {perform : σ → (q : Q) → A q × σ} {program : ι → Reads Q A β} {disturb : ε → σ → σ}
  {w after : Attended σ Q A β} {action : Action ι ε}

theorem moves_of_next (h : w.next perform program disturb action = some after) :
    w.Moves perform program disturb action after := by
  obtain ⟨system, hsystem, rfl⟩ := Option.map_eq_some_iff.1 h
  cases action with
  | call thread operation =>
      simp only [Interleaving.next] at hsystem
      split at hsystem
      · cases hsystem
      · rename_i hidle
        cases hsystem
        exact .call (by simpa using hidle)
  | step thread =>
      obtain ⟨p, hp, rfl⟩ := Option.map_eq_some_iff.1 hsystem
      cases p with
      | ret value =>
          simp only [System.reply, hp]
          exact .reply hp
      | ask q rest =>
          simp only [System.reply, hp]
          exact .access hp
  | disturb event =>
      cases hsystem
      exact .disturb

theorem shared_of_moves {R : σ → σ → Prop} (refl : ∀ s, R s s)
    (accesses : ∀ s q, R s (perform s q).2) (disturbs : ∀ event s, R s (disturb event s))
    (h : w.Moves perform program disturb action after) :
    R w.system.shared after.system.shared := by
  cases h with
  | call _ => exact refl _
  | reply _ => exact refl _
  | access _ => exact accesses _ _
  | disturb => exact disturbs _ _

theorem shared_of_run {R : σ → σ → Prop} (refl : ∀ s, R s s)
    (trans : ∀ s t u, R s t → R t u → R s u)
    (accesses : ∀ s q, R s (perform s q).2) (disturbs : ∀ event s, R s (disturb event s))
    {actions : List (Action ι ε)}
    (h : PartialMachine.run (next perform program disturb) w actions = some after) :
    R w.system.shared after.system.shared := by
  have preserves : ∀ action ∈ actions, ∀ v v', R w.system.shared v.system.shared →
      next perform program disturb v action = some v' → R w.system.shared v'.system.shared :=
    fun _ _ _ _ hkept hstep => trans _ _ _ hkept
      (shared_of_moves refl accesses disturbs (moves_of_next hstep))
  exact PartialMachine.run_invariant preserves (refl _) h

theorem meets_of_run {R : σ → σ → Prop} {F : σ → Prop} (refl : ∀ s, R s s)
    (trans : ∀ s t u, R s t → R t u → R s u) (accesses : ∀ s q, R s (perform s q).2)
    (disturbs : ∀ event s, R s (disturb event s)) (earlier : ∀ s t, R s t → F t → F s)
    {actions : List (Action ι ε)}
    (h : PartialMachine.run (next perform program disturb) w actions = some after)
    (hF : F after.system.shared) :
    PartialMachine.Meets (next perform program disturb)
      (fun v action => ∀ q ∈ v.system.pendingAccess action, F (perform v.system.shared q).2)
      w actions := by
  rintro done action ⟨rest, rfl⟩ v hv q hq
  rw [List.append_assoc, PartialMachine.run_append, hv, Option.bind_some, List.singleton_append,
    PartialMachine.run_cons, Option.bind_eq_some_iff] at h
  obtain ⟨v', hv', hrest⟩ := h
  have hlater := shared_of_run refl trans accesses disturbs hrest
  cases moves_of_next hv' with
  | call _ => cases hq
  | disturb => cases hq
  | reply hret => simp [System.pendingAccess, hret] at hq
  | access hask =>
      obtain rfl := Option.some.inj ((System.pendingAccess_ask hask).symm.trans hq)
      exact earlier _ _ hlater hF

end Attended

namespace Protocol

structure Answering (P : Protocol σ Q A) (post : β → σ → Prop) (w : Attended σ Q A β) : Prop where
  inv : P.Inv w.system.shared
  upheld : ∀ thread p, w.system.threads thread = some p → P.Upholds post p w.system.shared
  replied : ∀ value ∈ w.replies, post value w.system.shared

variable {P : Protocol σ Q A} {post : β → σ → Prop} {program : ι → Reads Q A β}
  {disturb : ε → σ → σ} {w after : Attended σ Q A β} {action : Action ι ε}

theorem upholds_of_rely (stable : ∀ value s t, post value s → P.Rely s t → post value t)
    {p : Reads Q A β} {s t : σ} (h : P.Upholds post p s) (hrely : P.Rely s t) :
    P.Upholds post p t := by
  cases p with
  | ret value => exact stable value s t h hrely
  | ask q rest => exact fun u hinv hlater => h u hinv (P.rely_trans s t u hrely hlater)

theorem upholds_of_accesses {α : Type} (h : ∀ s q, P.Inv s → P.Guard s q →
    P.Inv (P.perform s q).2 ∧ P.Rely s (P.perform s q).2) (p : Reads Q A α) (s : σ) :
    P.Upholds (fun _ _ => True) p s := by
  induction p generalizing s with
  | ret value => trivial
  | ask q rest ih =>
      intro t hinv _ hguard
      obtain ⟨hkept, hrely⟩ := h t q hinv hguard
      exact ⟨hkept, hrely, ih _ _⟩

theorem upholds_attempt {δ α γ : Type} {after : Except δ γ → σ → Prop} {p : Fallible Q A δ α}
    {f : α → Fallible Q A δ γ} {s : σ}
    (h : P.Upholds (fun result t => (∀ e, result = .error e → after (.error e) t) ∧
      ∀ a, result = .ok a → P.Upholds after (f a) t) p s) :
    P.Upholds after (p.attempt f) s := by
  refine Upholds.bind (h.mono fun result t hresult => ?_)
  cases result with
  | error e => exact hresult.1 e rfl
  | ok a => exact hresult.2 a rfl

theorem answering_idle {start : σ} (h : P.Inv start) : P.Answering post (.idle start) :=
  ⟨h, fun _ _ hp => (Option.some_ne_none _ hp.symm).elim,
    fun _ hvalue => (List.not_mem_nil hvalue).elim⟩

section Step

variable (stable : ∀ value s t, post value s → P.Rely s t → post value t)
include stable

theorem Answering.rely (h : P.Answering post w) {t : σ} (hinv : P.Inv t)
    (hrely : P.Rely w.system.shared t) :
    P.Answering post ⟨⟨t, w.system.threads⟩, w.replies⟩ :=
  ⟨hinv, fun thread p hp => upholds_of_rely stable (h.upheld thread p hp) hrely,
    fun value hvalue => stable value _ t (h.replied value hvalue) hrely⟩

omit stable in
theorem Answering.assign (h : P.Answering post w) (thread : Nat) {running : Option (Reads Q A β)}
    (hp : ∀ p, running = some p → P.Upholds post p w.system.shared) :
    P.Answering post
      ⟨⟨w.system.shared, Function.update w.system.threads thread running⟩, w.replies⟩ := by
  refine ⟨h.inv, fun other p hother => ?_, h.replied⟩
  dsimp only at hother
  by_cases hsame : other = thread
  · subst hsame
    rw [Function.update_self] at hother
    exact hp p hother
  · rw [Function.update_of_ne hsame] at hother
    exact h.upheld other p hother

theorem Answering.next_of_called
    (calls : ∀ thread operation, action = .call thread operation → ∀ s, P.Inv s →
      P.Upholds post (program operation) s)
    (disturbs : ∀ event, action = .disturb event → ∀ s, P.Inv s →
      P.Inv (disturb event s) ∧ P.Rely s (disturb event s))
    (h : P.Answering post w) (guarded : P.Guarded w.system action)
    (hstep : w.next P.perform program disturb action = some after) : P.Answering post after := by
  cases Attended.moves_of_next hstep with
  | call _ =>
      refine h.assign _ fun p hp => ?_
      cases hp
      exact calls _ _ rfl _ h.inv
  | reply hret =>
      rename_i thread value
      have hkept : P.Answering post
          ⟨⟨w.system.shared, Function.update w.system.threads thread none⟩, w.replies⟩ :=
        h.assign thread fun p hp => by cases hp
      refine ⟨hkept.inv, hkept.upheld, fun value hvalue => ?_⟩
      rcases List.mem_cons.1 hvalue with rfl | hold
      · exact h.upheld _ _ hret
      · exact h.replied value hold
  | access hask =>
      obtain ⟨hkept, hown, hrest⟩ := h.upheld _ _ hask _ h.inv (P.rely_refl _)
        (guarded _ (System.pendingAccess_ask hask))
      refine (h.rely stable hkept hown).assign _ fun p hp => ?_
      cases hp
      exact hrest
  | disturb =>
      obtain ⟨hkept, hrely⟩ := disturbs _ rfl _ h.inv
      exact h.rely stable hkept hrely

theorem Answering.next
    (calls : ∀ operation s, P.Inv s → P.Upholds post (program operation) s)
    (disturbs : ∀ event s, P.Inv s → P.Inv (disturb event s) ∧ P.Rely s (disturb event s))
    (h : P.Answering post w) (guarded : P.Guarded w.system action)
    (hstep : w.next P.perform program disturb action = some after) : P.Answering post after :=
  h.next_of_called stable (fun _ operation _ => calls operation) (fun event _ => disturbs event)
    guarded hstep

end Step

end Protocol

structure Tickets (σ Q : Type) (A : Q → Type) (β κ : Type) where
  perform : σ → (q : Q) → A q × σ
  Inv : σ → Prop
  spent : σ → κ → Prop
  grants : β → κ → Prop

namespace Tickets

variable (T : Tickets σ Q A β κ)

def Owning {α : Type} (post : (κ → Prop) → α → Prop) : (κ → Prop) → Reads Q A α → Prop
  | held, .ret value => post held value
  | held, .ask q rest => ∀ s, T.Inv s →
      Owning post (fun c => held c ∨ ¬ T.spent s c ∧ T.spent (T.perform s q).2 c)
        (rest (T.perform s q).1)

def Entitled : (κ → Prop) → Reads Q A β → Prop :=
  T.Owning fun held value => ∀ c, T.grants value c → held c

structure Custody (held : Nat → κ → Prop) (w : Attended σ Q A β) : Prop where
  entitled : ∀ thread p, w.system.threads thread = some p → T.Entitled (held thread) p
  idle : ∀ thread, w.system.threads thread = none → ∀ c, ¬ held thread c
  spent : ∀ thread c, held thread c → T.spent w.system.shared c
  one_holder : ∀ thread other c, held thread c → held other c → thread = other
  unanswered : ∀ thread c, held thread c → ∀ value ∈ w.replies, ¬ T.grants value c
  replied : ∀ value ∈ w.replies, ∀ c, T.grants value c → T.spent w.system.shared c
  once : w.replies.Pairwise fun later earlier => ∀ c, T.grants later c → ¬ T.grants earlier c

variable {T} {held : κ → Prop} {program : ι → Reads Q A β} {disturb : ε → σ → σ}
  {w after : Attended σ Q A β} {action : Action ι ε}

theorem Owning.bind {α γ : Type} {post : (κ → Prop) → γ → Prop} {p : Reads Q A α}
    {f : α → Reads Q A γ} (h : T.Owning (fun held a => T.Owning post held (f a)) held p) :
    T.Owning post held (p.bind f) := by
  induction p generalizing held with
  | ret value => exact h
  | ask q rest ih => exact fun s hs => ih _ (h s hs)

theorem owning_of_forall {α : Type} {post : (κ → Prop) → α → Prop}
    (h : ∀ held a, post held a) (held : κ → Prop) (p : Reads Q A α) : T.Owning post held p := by
  induction p generalizing held with
  | ret value => exact h held value
  | ask q rest ih => exact fun s _ => ih _ _

theorem Owning.attempt {δ α γ : Type} {post : (κ → Prop) → Except δ γ → Prop}
    {p : Fallible Q A δ α} {f : α → Fallible Q A δ γ}
    (h : T.Owning (fun held result => (∀ e, result = .error e → post held (.error e)) ∧
      ∀ a, result = .ok a → T.Owning post held (f a)) held p) :
    T.Owning post held (p.attempt f) := by
  refine Owning.bind ?_
  induction p generalizing held with
  | ret result =>
      cases result with
      | error e => exact h.1 e rfl
      | ok a => exact h.2 a rfl
  | ask q rest ih => exact fun s hs => ih _ (h s hs)

theorem custody_idle (start : σ) :
    T.Custody (fun _ _ => False) (.idle start : Attended σ Q A β) where
  entitled _ _ hp := by cases hp
  idle _ _ _ h := h
  spent _ _ h := h.elim
  one_holder _ _ _ h := h.elim
  unanswered _ _ h := h.elim
  replied _ hvalue := by cases hvalue
  once := .nil

theorem Custody.assign {owners : Nat → κ → Prop} (h : T.Custody owners w) {t : σ} (thread : Nat)
    {running : Option (Reads Q A β)} (keeps : κ → Prop)
    (kept : ∀ c, T.spent w.system.shared c → T.spent t c)
    (gained : ∀ c, keeps c → owners thread c ∨ ¬ T.spent w.system.shared c ∧ T.spent t c)
    (entitled : ∀ p, running = some p → T.Entitled keeps p)
    (idle : running = none → ∀ c, ¬ keeps c) :
    T.Custody (Function.update owners thread keeps)
      ⟨⟨t, Function.update w.system.threads thread running⟩, w.replies⟩ := by
  have hsource : ∀ other c, Function.update owners thread keeps other c →
      owners other c ∨ other = thread ∧ ¬ T.spent w.system.shared c ∧ T.spent t c := by
    intro other c hheld
    by_cases hsame : other = thread
    · subst hsame
      rw [Function.update_self] at hheld
      exact (gained c hheld).imp_right fun hfresh => ⟨rfl, hfresh⟩
    · rw [Function.update_of_ne hsame] at hheld
      exact .inl hheld
  refine ⟨fun other p hp => ?_, fun other hnone => ?_, fun other c hheld => ?_,
    fun other other' c hheld hheld' => ?_, fun other c hheld value hvalue hgrants => ?_,
    fun value hvalue c hgrants => kept c (h.replied value hvalue c hgrants), h.once⟩
  · dsimp only at hp
    by_cases hsame : other = thread
    · subst hsame
      rw [Function.update_self] at hp ⊢
      exact entitled p hp
    · rw [Function.update_of_ne hsame] at hp ⊢
      exact h.entitled other p hp
  · dsimp only at hnone
    by_cases hsame : other = thread
    · subst hsame
      rw [Function.update_self] at hnone ⊢
      exact idle hnone
    · rw [Function.update_of_ne hsame] at hnone ⊢
      exact h.idle other hnone
  · rcases hsource other c hheld with hold | ⟨-, -, hspent⟩
    · exact kept c (h.spent other c hold)
    · exact hspent
  · rcases hsource other c hheld with hold | ⟨rfl, hfresh, -⟩
    · rcases hsource other' c hheld' with hold' | ⟨rfl, hfresh, -⟩
      · exact h.one_holder other other' c hold hold'
      · exact absurd (h.spent other c hold) hfresh
    · rcases hsource other' c hheld' with hold' | ⟨rfl, -, -⟩
      · exact absurd (h.spent other' c hold') hfresh
      · rfl
  · rcases hsource other c hheld with hold | ⟨-, hfresh, -⟩
    · exact h.unanswered other c hold value hvalue hgrants
    · exact hfresh (h.replied value hvalue c hgrants)

theorem Custody.reply {owners : Nat → κ → Prop} (h : T.Custody owners w) {thread : Nat}
    {value : β} (hret : w.system.threads thread = some (.ret value)) :
    T.Custody (Function.update owners thread fun _ => False)
      ⟨⟨w.system.shared, Function.update w.system.threads thread none⟩, value :: w.replies⟩ := by
  have hkept : T.Custody (Function.update owners thread fun _ => False)
      ⟨⟨w.system.shared, Function.update w.system.threads thread none⟩, w.replies⟩ :=
    h.assign thread _ (fun _ hspent => hspent) (fun _ hheld => hheld.elim)
      (fun _ hp => by cases hp) fun _ _ hheld => hheld
  have hown : ∀ c, T.grants value c → owners thread c := h.entitled thread _ hret
  refine ⟨hkept.entitled, hkept.idle, hkept.spent, hkept.one_holder,
    fun other c hheld earlier hearlier hgrants => ?_, fun earlier hearlier c hgrants => ?_,
    List.pairwise_cons.2 ⟨fun earlier hearlier c hgrants => ?_, h.once⟩⟩
  · rcases List.mem_cons.1 hearlier with rfl | hold
    · by_cases hsame : other = thread
      · subst hsame
        rw [Function.update_self] at hheld
        exact hheld
      · rw [Function.update_of_ne hsame] at hheld
        exact hsame (h.one_holder other thread c hheld (hown c hgrants))
    · exact hkept.unanswered other c hheld earlier hold hgrants
  · rcases List.mem_cons.1 hearlier with rfl | hold
    · exact h.spent thread c (hown c hgrants)
    · exact h.replied earlier hold c hgrants
  · exact h.unanswered thread c (hown c hgrants) earlier hearlier

theorem Custody.next {owners : Nat → κ → Prop}
    (calls : ∀ operation, T.Entitled (fun _ => False) (program operation))
    (accesses : ∀ s q c, T.spent s c → T.spent (T.perform s q).2 c)
    (disturbs : ∀ event s c, T.spent s c → T.spent (disturb event s) c)
    (h : T.Custody owners w) (inv : T.Inv w.system.shared)
    (hstep : w.next T.perform program disturb action = some after) :
    ∃ owners', T.Custody owners' after := by
  cases Attended.moves_of_next hstep with
  | call hidle =>
      refine ⟨_, h.assign _ (fun _ => False) (fun _ hspent => hspent) (fun _ hheld => hheld.elim)
        (fun p hp => ?_) fun _ _ hheld => hheld⟩
      cases hp
      exact calls _
  | reply hret => exact ⟨_, h.reply hret⟩
  | access hask =>
      refine ⟨_, h.assign _ _ (accesses _ _) (fun c hheld => hheld) (fun p hp => ?_)
        fun hnone => by cases hnone⟩
      cases hp
      exact h.entitled _ _ hask _ inv
  | disturb =>
      exact ⟨owners, h.entitled, h.idle,
        fun thread c hheld => disturbs _ _ c (h.spent thread c hheld), h.one_holder, h.unanswered,
        fun value hvalue c hgrants => disturbs _ _ c (h.replied value hvalue c hgrants), h.once⟩

end Tickets

end Interleaving
