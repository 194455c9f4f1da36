import FeedFanout.Proofs.Viewers

/-!
The account of a viewer. It goes on by itself, whatever happens to others (`House.Orderly.account`). A viewer is to get
what is published to its user while it is there (`House.due_eq`), and all of that it has received, has missed, or has
still to get (`House.reckoned`).
-/
namespace FeedFanout.Live

/-- What an act makes of the account of the viewer with a number. -/
def Account.after (retention : Nat) (isOpen : Bool) (i : Nat) (a : Account) : Act → Account
  | .publish user post =>
    if isOpen = true ∧ a.present = true ∧ a.user = user then { a with due := a.due ++ [post.wire] } else a
  | .receive j =>
    if j = i ∧ a.present = true then { a with receipts := a.receipts ++ [.next retention isOpen a.rest] } else a
  | .leave j => if j = i ∧ a.present = true then { a with present := false } else a
  | .subscribe _ | .close => a

namespace Act

/-- A viewer comes, unless channels of the capacity cannot be opened. -/
def newcomer? (capacity : Nat) (isOpen : Bool) : Act → Option Account
  | .subscribe user =>
    if isOpen = true ∧ largestCapacity < max capacity 1 then none else some ⟨user, true, [], []⟩
  | _ => none

def closes : Act → Bool
  | .close => true
  | _ => false

/-- The act has to do with a user: it is no publication to another. -/
def concerns (user : UserId) : Act → Bool
  | .publish other _ => other = user
  | _ => true

end Act

namespace House
variable {capacity : Nat} {h h' : House} {act : Act} {i : Nat} {a : Account}

def accounts (h : House) : List Account := h.viewers.map (·.account)

theorem viewer_of (there : h.accounts[i]? = some a) : ∃ v, h.viewers[i]? = some v ∧ v.account = a := by
  rw [accounts, List.getElem?_map] at there
  exact Option.map_eq_some_iff.mp there

theorem isClosed_step (h : House) (act : Act) :
    (h.step act).notifier.isClosed = (h.notifier.isClosed || act.closes) := by
  cases act with
  | subscribe user =>
    simp only [step, Act.closes, Bool.or_false]
    split
    next stream next given =>
      cases Notifier.subscribed given <;> rfl
    · rfl
  | publish user post =>
    simp only [step, Act.closes, Bool.or_false]
    split
    next published next given =>
      cases (Notifier.delivers given).2 <;> rfl
    · rfl
  | receive j =>
    simp only [step, Act.closes, Bool.or_false]
    split
    · split <;> rfl
    · rfl
  | leave j =>
    simp only [step, Act.closes, Bool.or_false]
    split
    next v there =>
      split
      · cases v.stream <;> rfl
      · rfl
    · rfl
  | close => simp [step, Notifier.close, Act.closes]

namespace Orderly

/-- Nobody new comes, or somebody does. -/
theorem newcomer (orderly : h.Orderly capacity) (act : Act) :
    (h.step act).accounts[h.accounts.length]? = act.newcomer? capacity (!h.notifier.isClosed) ∧
      (h.step act).accounts.length =
        h.accounts.length + (act.newcomer? capacity (!h.notifier.isClosed)).toList.length := by
  have nobody : ∀ h' : House, h'.accounts.length = h.accounts.length →
      h'.accounts[h.accounts.length]? = none ∧ h'.accounts.length = h.accounts.length + 0 :=
    fun h' same => ⟨List.getElem?_eq_none (Nat.le_of_eq same), same⟩
  cases act with
  | subscribe user =>
    simp only [House.step, Act.newcomer?]
    cases given : h.notifier.subscribe? user with
    | none =>
      obtain ⟨running, large⟩ := orderly.sound.subscribe?_eq_none_iff.mp given
      rw [if_pos ⟨by rw [running]; rfl, large⟩]
      exact nobody h rfl
    | some subscribed =>
      have comes : ¬((!h.notifier.isClosed) = true ∧ largestCapacity < max capacity 1) := by
        rintro ⟨running, large⟩
        have refused : h.notifier.subscribe? user = none :=
          orderly.sound.subscribe?_eq_none_iff.mpr ⟨by simpa using running, large⟩
        rw [refused] at given
        cases given
      rw [if_neg comes]
      simp [accounts]
  | publish user post =>
    simp only [House.step]
    split
    · exact nobody _ (by simp [accounts])
    · exact nobody h rfl
  | receive j =>
    simp only [House.step]
    split
    · split
      · exact nobody _ (by simp [accounts])
      · exact nobody h rfl
    · exact nobody h rfl
  | leave j =>
    simp only [House.step]
    split
    · split
      · exact nobody _ (by simp [accounts])
      · exact nobody h rfl
    · exact nobody h rfl
  | close => exact nobody _ rfl

/-- A viewer's account goes on by itself. -/
theorem account (orderly : h.Orderly capacity) (there : h.accounts[i]? = some a) (act : Act) :
    (h.step act).accounts[i]? = some (a.after (powerFrom (max capacity 1)) (!h.notifier.isClosed) i act) := by
  obtain ⟨v, held, rfl⟩ := viewer_of there
  have member := List.mem_of_getElem? held
  have inside := (List.getElem?_eq_some_iff.mp held).1
  cases act with
  | subscribe user =>
    simp only [House.step]
    split
    · rw [accounts, List.map_append, List.getElem?_append_left (by simpa using inside)]
      exact there
    · exact there
  | publish user post =>
    simp only [House.step]
    split
    next published next given =>
      have running := (Notifier.delivers given).1
      simp only [accounts, List.getElem?_map, held, Option.map_some, Account.after, running, Bool.not_false, true_and]
      unfold Viewer.told
      split <;> rfl
    next error given =>
      have closed := Notifier.isClosed_of_publish given
      simp [accounts, held, Account.after, closed]
  | receive j =>
    simp only [House.step]
    by_cases mine : j = i
    · subst mine
      rw [held]
      by_cases present : v.account.present = true
      · have gets := (orderly.read_eq member present).1
        simp [accounts, present, Account.after, inside, Viewer.read, gets]
      · simp [accounts, held, present, Account.after]
    · split
      · split
        · simp [accounts, List.getElem?_set_ne mine, held, Account.after, mine]
        · simp [accounts, held, Account.after, mine]
      · simp [accounts, held, Account.after, mine]
  | leave j =>
    simp only [House.step]
    by_cases mine : j = i
    · subst mine
      rw [held]
      by_cases present : v.account.present = true
      · simp [accounts, present, Account.after, inside, Viewer.gone]
      · simp [accounts, held, present, Account.after]
    · split
      · split
        · simp [accounts, List.getElem?_set_ne mine, held, Account.after, mine]
        · simp [accounts, held, Account.after, mine]
      · simp [accounts, held, Account.after, mine]
  | close => exact there

/-- An account after a step is one from before that has gone on, or that of a new viewer. -/
theorem account_cases (orderly : h.Orderly capacity) {act : Act} (there : (h.step act).accounts[i]? = some a) :
    (∃ b, h.accounts[i]? = some b ∧ a = b.after (powerFrom (max capacity 1)) (!h.notifier.isClosed) i act) ∨
      i = h.accounts.length ∧ act.newcomer? capacity (!h.notifier.isClosed) = some a := by
  obtain ⟨new, length⟩ := orderly.newcomer act
  by_cases old : i < h.accounts.length
  · have before := List.getElem?_eq_getElem old
    rw [orderly.account before act] at there
    exact .inl ⟨_, before, (Option.some.inj there).symm⟩
  · have inside := (List.getElem?_eq_some_iff.mp there).1
    have last : i = h.accounts.length := by
      have one : (act.newcomer? capacity (!h.notifier.isClosed)).toList.length ≤ 1 := by
        cases act.newcomer? capacity (!h.notifier.isClosed) <;> simp
      omega
    subst last
    exact .inr ⟨rfl, new.symm.trans there⟩

end Orderly

/-! ### Nothing gets lost unseen -/

/-- Receipts account for the messages that the viewer is done with. -/
def Accounted (a : Account) : Prop := ∃ passed, a.due = passed ++ a.rest ∧ Explains a.receipts passed

theorem Accounted.length (accounted : Accounted a) :
    (received a.receipts).length + missedIn a.receipts + a.rest.length = a.due.length := by
  obtain ⟨passed, due, explains⟩ := accounted
  rw [due, List.length_append, explains.length, takenIn_eq]

theorem Accounted.sublist (accounted : Accounted a) : (received a.receipts).Sublist a.due := by
  obtain ⟨passed, due, explains⟩ := accounted
  rw [due]
  exact explains.sublist.trans (List.sublist_append_left ..)

theorem Accounted.after (accounted : Accounted a) (retention : Nat) (isOpen : Bool) (i : Nat) (act : Act) :
    Accounted (a.after retention isOpen i act) := by
  obtain ⟨passed, due, explains⟩ := accounted
  have taken : takenIn a.receipts ≤ a.due.length := by
    rw [due, List.length_append, explains.length]
    exact Nat.le_add_right ..
  cases act with
  | publish user post =>
    simp only [Account.after]
    split
    · refine ⟨passed, ?_, explains⟩
      have rest : Account.rest { a with due := a.due ++ [post.wire] } = a.rest ++ [post.wire] :=
        List.drop_append_of_le_length taken
      rw [rest, ← List.append_assoc, ← due]
    · exact ⟨passed, due, explains⟩
  | receive j =>
    simp only [Account.after]
    split
    · refine ⟨_, ?_, explains.next retention isOpen a.rest⟩
      rw [Account.rest_receive, List.append_assoc, List.take_append_drop, ← due]
    · exact ⟨passed, due, explains⟩
  | leave j =>
    simp only [Account.after]
    split
    · exact ⟨passed, due, explains⟩
    · exact ⟨passed, due, explains⟩
  | subscribe | close => exact ⟨passed, due, explains⟩

theorem of_newcomer {isOpen : Bool} (new : act.newcomer? capacity isOpen = some a) :
    ∃ user, act = .subscribe user ∧ a = ⟨user, true, [], []⟩ := by
  cases act with
  | subscribe user =>
    simp only [Act.newcomer?] at new
    split at new
    · cases new
    · cases new
      exact ⟨user, rfl, rfl⟩
  | _ => cases new

theorem accounted (orderly : h.Orderly capacity) (begun : ∀ a ∈ h.accounts, Accounted a) (acts : List Act) :
    ∀ a ∈ (h.run acts).accounts, Accounted a := by
  induction acts generalizing h with
  | nil => exact begun
  | cons act acts ih =>
    refine ih (orderly.step act) ?_
    intro a member
    obtain ⟨i, there⟩ := List.mem_iff_getElem?.mp member
    obtain ⟨b, before, rfl⟩ | ⟨-, new⟩ := orderly.account_cases there
    · exact (begun b (List.mem_of_getElem? before)).after _ _ _ _
    · obtain ⟨user, -, rfl⟩ := of_newcomer new
      exact ⟨[], rfl, .none⟩

/-- Whoever came since the start is accounted for. -/
theorem accounted_run (capacity : Nat) (acts : List Act) :
    ∀ a ∈ ((House.empty capacity).run acts).accounts, Accounted a :=
  accounted (.empty capacity) (List.forall_mem_nil _) acts

/-! ### Who keeps up misses nothing -/

theorem missedIn_after {retention : Nat} (near : a.rest.length ≤ retention) (isOpen : Bool) (i : Nat) (act : Act) :
    missedIn (a.after retention isOpen i act).receipts = missedIn a.receipts := by
  cases act with
  | receive j =>
    simp only [Account.after]
    split
    · rw [missedIn_append, Receipt.missed_next near, Nat.add_zero]
    · rfl
  | publish | leave =>
    simp only [Account.after]
    split <;> rfl
  | subscribe | close => rfl

/-- A viewer that was never far behind has missed nothing. -/
theorem missed_none (orderly : h.Orderly capacity) (acts : List Act)
    (begun : ∀ a, h.accounts[i]? = some a → missedIn a.receipts = 0)
    (near : ∀ earlier, earlier <+: acts → ∀ b, (h.run earlier).accounts[i]? = some b → b.rest.length ≤ max capacity 1) :
    ∀ a, (h.run acts).accounts[i]? = some a → missedIn a.receipts = 0 := by
  induction acts generalizing h with
  | nil => exact begun
  | cons act acts ih =>
    refine ih (orderly.step act) ?_ fun earlier early => near (act :: earlier) (List.prefix_cons_inj act |>.mpr early)
    intro a there
    obtain ⟨b, before, rfl⟩ | ⟨-, new⟩ := orderly.account_cases there
    · have kept : b.rest.length ≤ powerFrom (max capacity 1) :=
        (near [] List.nil_prefix b before).trans (le_powerFrom _)
      rw [missedIn_after kept]
      exact begun b before
    · obtain ⟨user, -, rfl⟩ := of_newcomer new
      rfl

/-! ### Publications to others -/

/-- Two houses that a user cannot tell apart. -/
structure Alike (user : UserId) (h h' : House) : Prop where
  isClosed : h.notifier.isClosed = h'.notifier.isClosed
  length : h.accounts.length = h'.accounts.length
  same : ∀ (i : Nat) (a b : Account), h.accounts[i]? = some a → h'.accounts[i]? = some b →
    a.user = b.user ∧ (a.user = user → a = b)

theorem user_after (a : Account) (retention : Nat) (isOpen : Bool) (i : Nat) (act : Act) :
    (a.after retention isOpen i act).user = a.user := by
  cases act with
  | publish | receive | leave =>
    simp only [Account.after]
    split <;> rfl
  | subscribe | close => rfl

theorem Alike.step {user : UserId} (alike : Alike user h h') (orderly : h.Orderly capacity)
    (orderly' : h'.Orderly capacity) (act : Act) : Alike user (h.step act) (h'.step act) := by
  refine ⟨?_, ?_, ?_⟩
  · rw [isClosed_step, isClosed_step, alike.isClosed]
  · rw [(orderly.newcomer act).2, (orderly'.newcomer act).2, alike.isClosed, alike.length]
  · intro i a b there there'
    have length := alike.length
    obtain ⟨a, before, rfl⟩ | ⟨last, new⟩ := orderly.account_cases there
    · obtain ⟨b, before', rfl⟩ | ⟨last', -⟩ := orderly'.account_cases there'
      · obtain ⟨users, same⟩ := alike.same i a b before before'
        rw [user_after, user_after, alike.isClosed]
        exact ⟨users, fun mine => by rw [same mine]⟩
      · have old := (List.getElem?_eq_some_iff.mp before).1
        omega
    · obtain ⟨b, before', rfl⟩ | ⟨-, new'⟩ := orderly'.account_cases there'
      · have old := (List.getElem?_eq_some_iff.mp before').1
        omega
      · rw [alike.isClosed, new'] at new
        cases new
        exact ⟨rfl, fun _ => rfl⟩

/-- A user does not notice what is published to others. -/
theorem Alike.unconcerned {user : UserId} (alike : Alike user h h') (orderly : h.Orderly capacity) {act : Act}
    (other : act.concerns user = false) : Alike user (h.step act) h' := by
  obtain ⟨author, post, rfl, apart⟩ : ∃ author post, act = .publish author post ∧ author ≠ user := by
    cases act with
    | publish author post => exact ⟨author, post, rfl, by simpa [Act.concerns] using other⟩
    | _ => cases other
  refine ⟨?_, ?_, ?_⟩
  · rw [isClosed_step, alike.isClosed]
    exact Bool.or_false _
  · rw [(orderly.newcomer _).2, ← alike.length]
    rfl
  · intro i a b there there'
    obtain ⟨a, before, rfl⟩ | ⟨-, new⟩ := orderly.account_cases there
    · obtain ⟨users, same⟩ := alike.same i a b before there'
      refine ⟨(user_after ..).trans users, ?_⟩
      rw [user_after]
      intro mine
      rw [← same mine]
      exact if_neg fun all => apart (all.2.2.symm.trans mine)
    · cases new

theorem alike_run {user : UserId} (alike : Alike user h h') (orderly : h.Orderly capacity)
    (orderly' : h'.Orderly capacity) (acts : List Act) :
    Alike user (h.run acts) (h'.run (acts.filter (·.concerns user))) := by
  induction acts generalizing h h' with
  | nil => exact alike
  | cons act acts ih =>
    cases concerns : act.concerns user with
    | true =>
      rw [List.filter_cons_of_pos concerns]
      exact ih (alike.step orderly orderly' act) (orderly.step act) (orderly'.step act)
    | false =>
      rw [List.filter_cons_of_neg (by simp [concerns])]
      exact ih (alike.unconcerned orderly concerns) (orderly.step act) orderly'

/-! ### What a viewer is to get -/

/-- The messages published to a user until the viewer with a number leaves or the notifier is closed. -/
def published (user : UserId) (i : Nat) : List Act → List String
  | [] => []
  | .publish other post :: acts => if other = user then post.wire :: published user i acts else published user i acts
  | .leave j :: acts => if j = i then [] else published user i acts
  | .close :: _ => []
  | .subscribe _ :: acts | .receive _ :: acts => published user i acts

theorem due_after {retention : Nat} {isOpen : Bool} (deaf : a.present = false ∨ isOpen = false) (i : Nat) (act : Act) :
    (a.after retention isOpen i act).due = a.due := by
  cases act with
  | publish other post =>
    simp only [Account.after]
    split
    next heard =>
      rcases deaf with gone | shut
      · rw [heard.2.1] at gone
        cases gone
      · rw [heard.1] at shut
        cases shut
    · rfl
  | receive | leave =>
    simp only [Account.after]
    split <;> rfl
  | subscribe | close => rfl

theorem present_after (gone : a.present = false) (retention : Nat) (isOpen : Bool) (i : Nat) (act : Act) :
    (a.after retention isOpen i act).present = false := by
  cases act with
  | publish | receive =>
    simp only [Account.after]
    split
    · exact gone
    · exact gone
  | leave =>
    simp only [Account.after]
    split
    · rfl
    · exact gone
  | subscribe | close => exact gone

/-- Who has left, or came to a closed notifier, is to get nothing more. -/
theorem due_of_deaf (orderly : h.Orderly capacity) (there : h.accounts[i]? = some a)
    (deaf : a.present = false ∨ h.notifier.isClosed = true) (acts : List Act) :
    ∃ b, (h.run acts).accounts[i]? = some b ∧ b.user = a.user ∧ b.due = a.due := by
  induction acts generalizing h a with
  | nil => exact ⟨a, there, rfl, rfl⟩
  | cons act acts ih =>
    have next := orderly.account there act
    have still : (a.after (powerFrom (max capacity 1)) (!h.notifier.isClosed) i act).present = false ∨
        (h.step act).notifier.isClosed = true := by
      rcases deaf with gone | shut
      · exact .inl (present_after gone ..)
      · rw [isClosed_step, shut]
        exact .inr rfl
    obtain ⟨b, held, user, due⟩ := ih (orderly.step act) next still
    rw [user_after] at user
    rw [due_after (deaf.imp_right fun shut => by rw [shut]; rfl)] at due
    exact ⟨b, held, user, due⟩

/-- A viewer that is there is to get what is published to its user from now on. -/
theorem due_of_run (orderly : h.Orderly capacity) (there : h.accounts[i]? = some a) (present : a.present = true)
    (running : h.notifier.isClosed = false) (acts : List Act) :
    ∃ b, (h.run acts).accounts[i]? = some b ∧ b.user = a.user ∧ b.due = a.due ++ published a.user i acts := by
  induction acts generalizing h a with
  | nil => exact ⟨a, there, rfl, (List.append_nil _).symm⟩
  | cons act acts ih =>
    have next := orderly.account there act
    have closed := isClosed_step h act
    rw [running, Bool.false_or] at closed
    rw [running] at next
    cases act with
    | publish other post =>
      by_cases mine : a.user = other
      · have heard : a.after (powerFrom (max capacity 1)) (!false) i (.publish other post) =
            { a with due := a.due ++ [post.wire] } := if_pos ⟨rfl, present, mine⟩
        rw [heard] at next
        obtain ⟨b, held, user, due⟩ := ih (orderly.step _) next present closed
        refine ⟨b, held, user, ?_⟩
        rw [due, published, if_pos mine.symm, List.append_assoc]
        rfl
      · have unheard : a.after (powerFrom (max capacity 1)) (!false) i (.publish other post) = a :=
          if_neg fun all => mine all.2.2
        rw [unheard] at next
        obtain ⟨b, held, user, due⟩ := ih (orderly.step _) next present closed
        refine ⟨b, held, user, ?_⟩
        rw [due, published, if_neg (Ne.symm mine)]
    | receive j =>
      simp only [Account.after] at next
      split at next
      · obtain ⟨b, held, user, due⟩ := ih (orderly.step _) next present closed
        exact ⟨b, held, user, due⟩
      · exact ih (orderly.step _) next present closed
    | leave j =>
      by_cases mine : j = i
      · have gone : (a.after (powerFrom (max capacity 1)) (!false) i (.leave j)) = { a with present := false } :=
          if_pos ⟨mine, present⟩
        rw [gone] at next
        obtain ⟨b, held, user, due⟩ := due_of_deaf (orderly.step _) next (.inl rfl) acts
        refine ⟨b, held, user, ?_⟩
        rw [due, published, if_pos mine, List.append_nil]
      · have there' : (a.after (powerFrom (max capacity 1)) (!false) i (.leave j)) = a := if_neg fun all => mine all.1
        rw [there'] at next
        obtain ⟨b, held, user, due⟩ := ih (orderly.step _) next present closed
        refine ⟨b, held, user, ?_⟩
        rw [due, published, if_neg mine]
    | subscribe other => exact ih (orderly.step _) next present closed
    | close =>
      obtain ⟨b, held, user, due⟩ := due_of_deaf (orderly.step _) next (.inr closed) acts
      exact ⟨b, held, user, due.trans (List.append_nil _).symm⟩

/-- A viewer has come at some time, and was to get from then on what was published to its user. -/
theorem due_eq (orderly : h.Orderly capacity) {acts : List Act} (new : h.accounts.length ≤ i)
    (there : (h.run acts).accounts[i]? = some a) :
    ∃ before later, acts = before ++ .subscribe a.user :: later ∧ (h.run before).accounts.length = i ∧
      a.due = if (h.run before).notifier.isClosed then [] else published a.user i later := by
  induction acts generalizing h with
  | nil =>
    have inside := (List.getElem?_eq_some_iff.mp there).1
    exact absurd new (Nat.not_le.mpr inside)
  | cons act acts ih =>
    by_cases new' : (h.step act).accounts.length ≤ i
    · obtain ⟨before, later, split, number, due⟩ := ih (orderly.step act) new' there
      exact ⟨act :: before, later, by rw [split]; rfl, number, due⟩
    · obtain ⟨comes, length⟩ := orderly.newcomer act
      obtain ⟨b, newcomer⟩ : ∃ b, act.newcomer? capacity (!h.notifier.isClosed) = some b := by
        cases newcomer : act.newcomer? capacity (!h.notifier.isClosed) with
        | none => rw [newcomer] at length; exact absurd (length.trans_le new) new'
        | some b => exact ⟨b, rfl⟩
      rw [newcomer] at comes length
      have number : h.accounts.length = i := by
        have one : (h.step act).accounts.length = h.accounts.length + 1 := length
        omega
      rw [number] at comes
      obtain ⟨user, rfl, rfl⟩ := of_newcomer newcomer
      have closed := (isClosed_step h (.subscribe user)).trans (Bool.or_false _)
      refine ⟨[], acts, ?_⟩
      change _ ∧ h.accounts.length = i ∧ a.due = if h.notifier.isClosed then [] else published a.user i acts
      cases running : h.notifier.isClosed with
      | true =>
        obtain ⟨b, held, same, due⟩ := due_of_deaf (orderly.step _) comes (.inr (closed.trans running)) acts
        obtain rfl : b = a := Option.some.inj (held.symm.trans there)
        exact ⟨by rw [same]; rfl, number, due⟩
      | false =>
        obtain ⟨b, held, same, due⟩ := due_of_run (orderly.step _) comes rfl (closed.trans running) acts
        obtain rfl : b = a := Option.some.inj (held.symm.trans there)
        exact ⟨by rw [same]; rfl, number, by rw [due, same]; rfl⟩

/-- A viewer that was never behind by more than the capacity has received all that it is done with. -/
theorem received_of_near {acts : List Act} {v : Viewer} (there : ((House.empty capacity).run acts).viewers[i]? = some v)
    (near : ∀ earlier, earlier <+: acts → ∀ w, ((House.empty capacity).run earlier).viewers[i]? = some w →
      w.account.rest.length ≤ max capacity 1) :
    v.account.due = received v.account.receipts ++ v.account.rest := by
  have begun := Orderly.empty capacity
  have held : ((House.empty capacity).run acts).accounts[i]? = some v.account := by simp [accounts, there]
  obtain ⟨passed, due, explains⟩ := accounted begun nofun acts v.account (List.mem_of_getElem? held)
  have none : missedIn v.account.receipts = 0 := by
    refine missed_none begun acts nofun ?_ v.account held
    intro earlier early b before
    obtain ⟨w, there, rfl⟩ := viewer_of before
    exact near earlier early w there
  rw [explains.all none]
  exact due

/-- The reckoning for the viewer with a number, after some acts. -/
structure Reckoned (capacity : Nat) (acts : List Act) (i : Nat) (v : Viewer) : Prop where
  /-- The viewer was to get what was published to its user after it came. -/
  due : ∃ before later, acts = before ++ .subscribe v.account.user :: later ∧
    ((House.empty capacity).run before).viewers.length = i ∧ v.account.due =
      if ((House.empty capacity).run before).notifier.isClosed then [] else published v.account.user i later
  /-- It received, in order, all that it is done with but for what it was told to have missed. -/
  explained : ∃ passed, v.account.due = passed ++ v.account.rest ∧ Explains v.account.receipts passed
  ordered : (received v.account.receipts).Sublist v.account.due
  total : (received v.account.receipts).length + missedIn v.account.receipts + v.account.rest.length =
    v.account.due.length
  /-- What it has still to get lies between its position and the latest message. -/
  behind : v.account.present = true →
    ((House.empty capacity).run acts).notifier.behind v.stream = v.account.rest.length
  /-- It missed nothing if it was never behind by more than the capacity. -/
  kept : (∀ earlier, earlier <+: acts → ∀ w, ((House.empty capacity).run earlier).viewers[i]? = some w →
      w.account.rest.length ≤ max capacity 1) →
    v.account.due = received v.account.receipts ++ v.account.rest
  /-- What was published to others made no difference. -/
  alone : ∃ w, ((House.empty capacity).run (acts.filter (·.concerns v.account.user))).viewers[i]? = some w ∧
    w.account = v.account

/-- Every viewer has been told of everything that was published to its user since it came. -/
theorem reckoned (capacity : Nat) (acts : List Act) {i : Nat} {v : Viewer}
    (there : ((House.empty capacity).run acts).viewers[i]? = some v) : Reckoned capacity acts i v := by
  have begun := Orderly.empty capacity
  have member := List.mem_of_getElem? there
  have held : ((House.empty capacity).run acts).accounts[i]? = some v.account := by simp [accounts, there]
  have settled : Accounted v.account := accounted begun nofun acts v.account (List.mem_of_getElem? held)
  have ordered := settled.sublist
  have total := settled.length
  obtain ⟨passed, due, explains⟩ := settled
  refine ⟨?_, ⟨passed, due, explains⟩, ordered, total, ?_, received_of_near there, ?_⟩
  · obtain ⟨before, later, split, number, due⟩ := due_eq begun (Nat.zero_le i) held
    exact ⟨before, later, split, by simpa [accounts] using number, due⟩
  · intro present
    exact ((begun.run acts).reads v member present).behind
  · have alike : Alike v.account.user (House.empty capacity) (House.empty capacity) := ⟨rfl, rfl, nofun⟩
    have after := alike_run alike begun begun acts
    have inside : i < ((House.empty capacity).run (acts.filter (·.concerns v.account.user))).accounts.length :=
      after.length ▸ (List.getElem?_eq_some_iff.mp held).1
    have held' := List.getElem?_eq_getElem inside
    obtain ⟨-, same⟩ := after.same i _ _ held held'
    obtain ⟨w, there', account⟩ := viewer_of held'
    exact ⟨w, there', account.trans (same rfl).symm⟩

/-- A viewer of user 7 reads after two posts were published, of which the channel keeps one. -/
def slow : List Act :=
  [.subscribe (.ofNat 7), .publish (.ofNat 7) ⟨.ofNat 1, .ofNat 8, "a"⟩, .publish (.ofNat 9) ⟨.ofNat 1, .ofNat 8, "a"⟩,
    .publish (.ofNat 7) ⟨.ofNat 2, .ofNat 8, "b"⟩, .receive 0, .receive 0]

theorem reckoned_slow : Reckoned 1 slow 0
    ⟨⟨.ofNat 7, true, [Post.wire ⟨.ofNat 1, .ofNat 8, "a"⟩, Post.wire ⟨.ofNat 2, .ofNat 8, "b"⟩],
      [.lagged 1, .message (Post.wire ⟨.ofNat 2, .ofNat 8, "b"⟩)]⟩, .attached 0 2⟩ :=
  reckoned 1 slow rfl

end House
end FeedFanout.Live
