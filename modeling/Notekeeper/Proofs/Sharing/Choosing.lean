import Mathlib.Control.Monad.Basic
import Notekeeper.Proofs.Sharing.Secrets

/-!
# A credential chosen while others change the secrets

One caller chooses the credential in use, and at the same time another one changes the credential
list and chooses as well.  The choice reads the list in one transaction and writes the settings in
a later one.  So it answers as it would at one place among the calls of the other, and it settles
the settings at that place or a later one.

Whatever the turns are, the calls of the other fall into three parts: those that were `seen` by the
choice when it read the list, those made `during` it, and those made `since` it wrote the settings.
That is all that the order of turns comes to (`Choosing.after`), so that the rest of the argument is
about lists of calls and their replies.

An order of all calls puts the choice at some place `p` among the others.  It explains what the two
callers came to if the choice answers at `p` as it did, and the settings end up the same
(`serialAt_iff`).  Right behind the calls that were seen the answer is the same; and the settings
are too, unless a call made during the choice chose another credential and none since did
(`exists_overtaken`).  In that one case the choice has outlived a later one.  A place behind all
choices of the other could still explain it, if it had answered the same there; where no such place
exists, because the credential is gone from its place in the list, no order explains what happened.
Conversely, an order that explains it must have the choice behind all choices of the other.

* `Choosing` : how far the two callers have come.
* `Choosing.after` : what holds of them after any turns.
* `serialAt_iff` : when they end as if the choice had been made whole at some place.
* `Outlives` : a choice that is kept in place of a later one.
* `serialisable_iff_not_outlives` : when there is such a place.
-/

namespace Notekeeper

open Command CredentialList SecretCall Crowd

/-- Two callers: one chooses a credential, and the other one changes the secrets. -/
inductive Party
  | chooser
  | changer
  deriving DecidableEq

variable {σ : Type} [Backend σ]

/-! ## 1. Where a choice reads and where it writes -/

/-- **The secrets that a choice leaves among other calls**: it reads the list after those that it
has seen, and it writes the settings after those that were made in the meantime. -/
def Secrets.amid (x : Secrets) (call : SecretCall) (seen during since : List SecretCall) :
    Secrets :=
  ((x.afterAll (seen ++ during)).after call
    (call.reply (listAfterAll seen x.list) x.readable)).afterAll since

variable {x : Secrets} {client : Client} {place : Int64} {seen during since : List SecretCall}

theorem Secrets.readable_amid :
    (x.amid (.choose client place) seen during since).readable = x.readable := by
  have hsettled := (x.afterAll (seen ++ during)).readable_after (.choose client place)
    (listAfterAll seen x.list)
  rw [readable_afterAll] at hsettled
  rw [amid, readable_afterAll, hsettled]

theorem Secrets.list_amid : (x.amid (.choose client place) seen during since).list
    = listAfterAll (seen ++ during ++ since) x.list :=
  (listAfterAll_append (seen ++ during) since).symm

theorem Secrets.afterAll_amid {call : SecretCall} (more : List SecretCall) :
    (x.amid call seen during since).afterAll more = x.amid call seen during (since ++ more) :=
  (afterAll_append _ since more).symm

/-- **How far two callers have come**, of which the first one chooses a credential.  What the choice
has read, it keeps until it writes. -/
inductive Choosing (x : Secrets) (call : SecretCall) (others : List SecretCall) :
    Caller → Caller → σ → Prop
  | going {seen during todo : List SecretCall} {chooser changer : Caller} {s : σ}
      (hothers : others = seen ++ during ++ todo)
      (hchooser : Makes (listAfterAll seen x.list) x.readable [] [call] chooser)
      (hchanger : Makes (x.afterAll (seen ++ during)).list x.readable
        (replies x.readable (seen ++ during) x.list) todo changer)
      (hs : (x.afterAll (seen ++ during)).In s) : Choosing x call others chooser changer s
  | settled {seen during since todo : List SecretCall} {changer : Caller} {s : σ}
      (hothers : others = seen ++ during ++ since ++ todo)
      (hchanger : Makes (x.amid call seen during since).list x.readable
        (replies x.readable (seen ++ during ++ since) x.list) todo changer)
      (hs : (x.amid call seen during since).In s) :
    Choosing x call others ⟨[call.reply (listAfterAll seen x.list) x.readable], []⟩ changer s

namespace Choosing

variable {others : List SecretCall} {chooser changer : Caller} {s : σ} {w : Surroundings}

theorem making (hs : x.In s) (call : SecretCall) (others : List SecretCall) :
    Choosing x call others (.making [call.step]) (.making (others.map step)) s :=
  have hothers : others = [] ++ [] ++ others := rfl
  .going hothers (.between _ _ _ [call]) (.between _ _ _ others) hs

variable [LawfulBackend σ]

/-- The turn of the one that chooses. -/
theorem advance_chooser (h : Choosing x (.choose client place) others chooser changer s)
    (hw : w.fault = .none) :
    Choosing x (.choose client place) others (chooser.advance w s).1 changer
      (chooser.advance w s).2 := by
  cases h with
  | @going seen during todo _ _ _ hothers hchooser hchanger hs =>
    rw [← x.readable_afterAll (seen ++ during)] at hchooser
    obtain ⟨held, hheld, hmoved⟩ := hchooser.advance hs hw
    -- A choice that reads the list now has seen all that was made so far.
    obtain ⟨seen', during', hsplit, rfl⟩ : ∃ seen' during',
        seen ++ during = seen' ++ during' ∧ held = listAfterAll seen' x.list := by
      rcases hheld with rfl | rfl
      · exact ⟨seen, during, rfl, rfl⟩
      · exact ⟨seen ++ during, [], (List.append_nil _).symm, rfl⟩
    rw [hsplit] at hothers hchanger hs hmoved
    generalize chooser.advance w s = r at hmoved
    cases hmoved with
    | goesOn h' hs' =>
      rw [x.readable_afterAll] at h'
      exact .going hothers h' hchanger hs'
    | answers h' hs' =>
      obtain rfl := (h' x.list).eq_of_nil
      rw [x.readable_afterAll] at hs' ⊢
      have hlist : (x.afterAll (seen' ++ during')).list
          = (x.amid (.choose client place) seen' during' []).list := rfl
      rw [← List.append_nil (seen' ++ during')] at hothers
      rw [hlist, ← List.append_nil (seen' ++ during')] at hchanger
      exact .settled hothers hchanger hs'
  | settled hothers hchanger hs => exact .settled hothers hchanger hs

/-- The turn of the one that changes the secrets. -/
theorem advance_changer (h : Choosing x (.choose client place) others chooser changer s)
    (hw : w.fault = .none) :
    Choosing x (.choose client place) others chooser (changer.advance w s).1
      (changer.advance w s).2 := by
  cases h with
  | @going seen during todo _ _ _ hothers hchooser hchanger hs =>
    rw [← x.readable_afterAll (seen ++ during)] at hchanger
    obtain ⟨more, later, rfl, hmakes, hs'⟩ := hchanger.advance_own hs hw
    have hreplies : replies x.readable (seen ++ during) x.list
        ++ replies x.readable more (x.afterAll (seen ++ during)).list
        = replies x.readable (seen ++ during ++ more) x.list := (replies_append _ more).symm
    rw [x.readable_afterAll, hreplies] at hmakes
    rw [← Secrets.afterAll_append, List.append_assoc] at hmakes hs'
    have hothers' : others = seen ++ (during ++ more) ++ later := by simpa using hothers
    exact .going hothers' hchooser hmakes hs'
  | @settled seen during since todo _ _ hothers hchanger hs =>
    rw [← x.readable_amid] at hchanger
    obtain ⟨more, later, rfl, hmakes, hs'⟩ := hchanger.advance_own hs hw
    rw [x.readable_amid, Secrets.list_amid, ← replies_append] at hmakes
    rw [Secrets.afterAll_amid] at hmakes hs'
    rw [List.append_assoc _ since more] at hmakes
    have hothers' : others = seen ++ during ++ (since ++ more) ++ later := by simpa using hothers
    exact .settled hothers' hmakes hs'

/-- **What holds of two callers of which one chooses**, after any turns of both. -/
theorem after {c : Crowd σ Party} {turns : List (Turn Party)}
    (h : Choosing x (.choose client place) others (c.callers .chooser) (c.callers .changer) c.store)
    (hcalm : ∀ t ∈ turns, t.meets.fault = .none) :
    Choosing x (.choose client place) others ((c.after turns).callers .chooser)
      ((c.after turns).callers .changer) (c.after turns).store := by
  induction turns generalizing c with
  | nil => exact h
  | cons t turns ih =>
    have hw : t.meets.fault = .none := hcalm t List.mem_cons_self
    refine ih ?_ fun t' ht' => hcalm t' (List.mem_cons_of_mem t ht')
    obtain ⟨who, w⟩ := t
    cases who with
    | chooser => exact h.advance_chooser hw
    | changer => exact h.advance_changer hw

end Choosing

/-- **What two callers came to**, of which one chose: where the choice was made among the calls of
the other. -/
structure ChoseAmid (x : Secrets) (call : SecretCall) (seen during since : List SecretCall)
    (c : Crowd σ Party) : Prop where
  chooser : (c.callers .chooser).answered = [call.reply (listAfterAll seen x.list) x.readable]
  changer : (c.callers .changer).answered
    = replies x.readable (seen ++ during ++ since) x.list
  store : (x.amid call seen during since).In c.store

/-- Two callers that have made all calls. -/
theorem Choosing.exists_choseAmid {call : SecretCall} {others : List SecretCall}
    {c : Crowd σ Party}
    (h : Choosing x call others (c.callers .chooser) (c.callers .changer) c.store)
    (hended : ∀ i, (c.callers i).calls = []) :
    ∃ seen during since, others = seen ++ during ++ since
      ∧ ChoseAmid x call seen during since c := by
  have hchooser := hended .chooser
  have hchanger := hended .changer
  generalize hfirst : c.callers .chooser = chooser at h hchooser
  generalize hsecond : c.callers .changer = changer at h hchanger
  generalize hstore : c.store = s at h
  cases h with
  | going _ hmakes _ _ => cases hmakes.eq_nil_of_calls hchooser
  | @settled seen during since todo _ _ hothers hmakes hs =>
    obtain rfl : todo = [] := hmakes.eq_nil_of_calls hchanger
    rw [List.append_nil] at hothers
    refine ⟨seen, during, since, hothers, ?_, ?_, ?_⟩
    · rw [hfirst]
    · rw [hsecond, hmakes.eq_of_nil]
    · rw [hstore]
      exact hs

/-! ## 2. Orders of the calls -/

/-- The calls of both callers in one order: the choice comes after so many of the others. -/
def inOrder (call : SecretCall) (others : List SecretCall) (p : Nat) : List SecretCall :=
  others.take p ++ call :: others.drop p

/-- **Whether two callers came to what comes of their calls in one order**, each made whole. -/
structure SerialAt (w : Surroundings) (s : σ) (call : SecretCall) (others : List SecretCall)
    (c : Crowd σ Party) (p : Nat) : Prop where
  replies : repliesDuring (fun _ => w) (history (fun _ => w) ((inOrder call others p).map step) 0 s)
    = (c.callers .changer).answered.take p ++ (c.callers .chooser).answered
      ++ (c.callers .changer).answered.drop p
  list : stored (storeAfter (fun _ => w) ((inOrder call others p).map step) 0 s) = stored c.store
  settings : (Slot.settings.record
      (storeAfter (fun _ => w) ((inOrder call others p).map step) 0 s) :
        Except Error (Option Settings)) = Slot.settings.record c.store

/-- Whether two callers came to what comes of their calls in some order. -/
def Serialisable (w : Surroundings) (s : σ) (call : SecretCall) (others : List SecretCall)
    (c : Crowd σ Party) : Prop :=
  ∃ p ≤ others.length, SerialAt w s call others c p

variable {others : List SecretCall} {c : Crowd σ Party} {s : σ} {w : Surroundings}

theorem replies_inOrder (p : Nat) :
    replies x.readable (inOrder (.choose client place) others p) x.list
      = (replies x.readable others x.list).take p
        ++ [(choose client place).reply (listAfterAll (others.take p) x.list) x.readable]
        ++ (replies x.readable others x.list).drop p := by
  rw [take_replies, drop_replies, inOrder, replies_append, List.append_assoc]
  rfl

theorem listAfterAll_inOrder (p : Nat) :
    listAfterAll (inOrder (.choose client place) others p) x.list = listAfterAll others x.list := by
  conv_rhs => rw [← List.take_append_drop p others, listAfterAll_append]
  rw [inOrder, listAfterAll_append]
  rfl

/-- What an order of the calls leaves of the settings. -/
theorem settings_inOrder (p : Nat) :
    (x.afterAll (inOrder (.choose client place) others p)).settings
      = settledBy ((replies x.readable others x.list).drop p)
        (((choose client place).reply (listAfterAll (others.take p) x.list) x.readable).settles
          (settledBy ((replies x.readable others x.list).take p) x.settings)) := by
  rw [Secrets.afterAll, replies_inOrder, settledBy_append, settledBy_append]
  rfl

/-- What is left of the settings when the choice is made whole where it reads the list. -/
theorem settings_inOrder_seen (hothers : others = seen ++ during ++ since) :
    (x.afterAll (inOrder (.choose client place) others seen.length)).settings
      = settledBy (replies x.readable since (listAfterAll (seen ++ during) x.list))
        (settledBy (replies x.readable during (listAfterAll seen x.list))
          (((choose client place).reply (listAfterAll seen x.list) x.readable).settles
            (settledBy (replies x.readable seen x.list) x.settings))) := by
  rw [List.append_assoc] at hothers
  rw [settings_inOrder, take_replies, drop_replies, hothers, List.take_left, List.drop_left,
    replies_append, settledBy_append, ← listAfterAll_append]

/-- What a choice leaves of the settings among other calls. -/
theorem Secrets.settings_amid (x : Secrets) (client : Client) (place : Int64)
    (seen during since : List SecretCall) :
    (x.amid (.choose client place) seen during since).settings
      = settledBy (replies x.readable since (listAfterAll (seen ++ during) x.list))
        (((choose client place).reply (listAfterAll seen x.list) x.readable).settles
          (settledBy (replies x.readable (seen ++ during) x.list) x.settings)) := by
  have hreadable := (x.afterAll (seen ++ during)).readable_after (.choose client place)
    (listAfterAll seen x.list)
  rw [readable_afterAll] at hreadable
  rw [amid, afterAll, hreadable]
  rfl

variable [LawfulBackend σ]

/-- **When two callers end as if the choice had been made whole at some place**: it answers there as
it did, and the settings end up the same. -/
theorem serialAt_iff (h : ChoseAmid x (.choose client place) seen during since c)
    (hothers : others = seen ++ during ++ since) (hs : x.In s) (hw : w.fault = .none) (p : Nat) :
    SerialAt w s (.choose client place) others c p
      ↔ (choose client place).answer (listAfterAll (others.take p) x.list) x.readable
          = (choose client place).answer (listAfterAll seen x.list) x.readable
        ∧ (x.afterAll (inOrder (.choose client place) others p)).settings
          = (x.amid (.choose client place) seen during since).settings := by
  obtain ⟨hreplies, hin⟩ :=
    history_of_secretCalls hs hw (inOrder (.choose client place) others p) 0
  have hchanger := h.changer
  rw [← hothers] at hchanger
  constructor
  · rintro ⟨hr, -, hsettings⟩
    rw [hreplies, replies_inOrder, h.chooser, hchanger, List.append_cancel_right_eq,
      List.append_cancel_left_eq] at hr
    rw [hin.settings, h.store.settings] at hsettings
    exact ⟨eq_of_heq (Reply.mk.inj (List.head_eq_of_cons_eq hr)).2, hsettings⟩
  · rintro ⟨hanswer, hsettings⟩
    refine ⟨?_, ?_, ?_⟩
    · rw [hreplies, replies_inOrder, h.chooser, hchanger, SecretCall.reply, hanswer]
      rfl
    · rw [hin.list, h.store.list, Secrets.list_amid, ← hothers]
      exact listAfterAll_inOrder p
    · rw [hin.settings, h.store.settings, hsettings]

/-- What a choice answers that is made whole. -/
theorem result_setActive (hs : x.In s) (hw : w.fault = .none) (client : Client) (place : Int64)
    (tick : Nat) :
    ((setActive place).report (fun _ => w) tick s).result
      = (choose client place).answer x.list x.readable := by
  have hreplies := (history_of_secretCalls hs hw [.choose client place] tick).1
  have hreply := List.head_eq_of_cons_eq hreplies
  exact eq_of_heq (Reply.mk.inj hreply).2

/-! ## 3. Choices that outlive later ones -/

section Replies

omit [LawfulBackend σ]

variable {r : Reply} {rs : List Reply} {old : Except Error (Option Settings)}

theorem choices_singleton_iff {settings : Settings} :
    choices [r] = [settings] ↔ r.chosen? = some settings := by
  unfold choices
  cases hr : r.chosen? <;> simp [hr]

/-- Replies without a choice leave the settings as they are. -/
theorem settledBy_of_nil (h : choices rs = []) : settledBy rs old = old := by
  rw [settledBy_eq, h]
  rfl

theorem settledBy_of_getLast {last : Settings} (h : (choices rs).getLast? = some last) :
    settledBy rs old = .ok (some last) := by
  rw [settledBy_eq, h]
  rfl

theorem settles_of_chosen {settings : Settings} (h : r.chosen? = some settings) :
    r.settles old = .ok (some settings) := by
  unfold Reply.settles
  rw [h]

/-- The last choice of all is the last one since some place. -/
theorem getLast?_choices_drop {p : Nat} (h : choices (rs.drop p) ≠ []) :
    (choices (rs.drop p)).getLast? = (choices rs).getLast? := by
  conv_rhs => rw [← List.take_append_drop p rs, choices_append, List.getLast?_append]
  rw [List.getLast?_eq_some_getLast h, Option.some_or]

/-- **When it makes a difference that a reply settles the settings late**: it gives a choice, other
choices were made in the meantime, and none since. -/
theorem exists_overtaken {during since : List Reply}
    (h : settledBy since (settledBy during (r.settles old))
      ≠ settledBy since (r.settles (settledBy during old))) :
    ∃ mine theirs, r.chosen? = some mine ∧ choices since = []
      ∧ (choices during).getLast? = some theirs ∧ theirs ≠ mine := by
  cases hr : r.chosen? with
  | none =>
    have hkeeps (z : Except Error (Option Settings)) : r.settles z = z := by
      unfold Reply.settles
      rw [hr]
    rw [hkeeps, hkeeps] at h
    exact absurd rfl h
  | some mine =>
    rw [settles_of_chosen hr, settles_of_chosen hr] at h
    cases hsince : (choices since).getLast? with
    | some last =>
      rw [settledBy_of_getLast hsince, settledBy_of_getLast hsince] at h
      exact absurd rfl h
    | none =>
      rw [List.getLast?_eq_none_iff] at hsince
      rw [settledBy_of_nil hsince, settledBy_of_nil hsince] at h
      cases hduring : (choices during).getLast? with
      | none =>
        rw [settledBy_of_nil (List.getLast?_eq_none_iff.1 hduring)] at h
        exact absurd rfl h
      | some theirs =>
        refine ⟨mine, theirs, rfl, hsince, rfl, ?_⟩
        rintro rfl
        exact h (settledBy_of_getLast hduring)

end Replies

/-- **Whether a choice outlived a later one.**  The settings keep it although the other caller chose
last, and nowhere after the choices of the other would it have answered as it did. -/
structure Outlives (w : Surroundings) (s : σ) (place : Int64) (others : List SecretCall)
    (c : Crowd σ Party) (mine theirs : Settings) : Prop where
  chosen : choices (c.callers .chooser).answered = [mine]
  kept : Slot.settings.record c.store = .ok (some mine)
  last : (choices (c.callers .changer).answered).getLast? = some theirs
  ne : theirs ≠ mine
  nowhere : ∀ p ≤ others.length, choices ((c.callers .changer).answered.drop p) = [] →
    ((setActive place).report (fun _ => w) 0
      (storeAfter (fun _ => w) ((others.take p).map step) 0 s)).result ≠ .ok mine

/-- The answer of a choice that is made whole after other calls. -/
theorem result_setActive_after (hs : x.In s) (hw : w.fault = .none) (client : Client)
    (place : Int64) (calls : List SecretCall) :
    ((setActive place).report (fun _ => w) 0
        (storeAfter (fun _ => w) (calls.map step) 0 s)).result
      = (choose client place).answer (listAfterAll calls x.list) x.readable := by
  rw [result_setActive (history_of_secretCalls hs hw calls 0).2 hw client, x.readable_afterAll]
  rfl

section Amid

variable (hamid : ChoseAmid x (.choose client place) seen during since c)
  (hothers : others = seen ++ during ++ since) (hs : x.In s) (hw : w.fault = .none)

omit [LawfulBackend σ] in
include hamid in
/-- Which credential was chosen. -/
theorem ChoseAmid.chosen_iff {settings : Settings} :
    choices (c.callers .chooser).answered = [settings]
      ↔ (choose client place).answer (listAfterAll seen x.list) x.readable = .ok settings := by
  rw [hamid.chooser, choices_singleton_iff, SecretCall.chosen?_choose]

include hamid hothers hs hw

/-- A choice that outlived a later one has no place in an order of the calls. -/
theorem Outlives.not_serialisable {mine theirs : Settings}
    (h : Outlives w s place others c mine theirs) :
    ¬ Serialisable w s (.choose client place) others c := by
  rintro ⟨p, hp, hserial⟩
  obtain ⟨hanswer, hsettings⟩ := (serialAt_iff hamid hothers hs hw p).1 hserial
  have hchanger := hamid.changer
  rw [← hothers] at hchanger
  have hkept : (x.amid (.choose client place) seen during since).settings = .ok (some mine) :=
    hamid.store.settings.symm.trans h.kept
  by_cases hnone : choices ((c.callers .changer).answered.drop p) = []
  · -- After the choices of the other it would have answered otherwise.
    refine h.nowhere p hp hnone ?_
    rw [result_setActive_after hs hw client]
    exact hanswer.trans (hamid.chosen_iff.1 h.chosen)
  · -- Before them it would have been settled by the last of them.
    have hlast := (getLast?_choices_drop hnone).trans h.last
    rw [hchanger] at hlast
    rw [settings_inOrder, settledBy_of_getLast hlast, hkept] at hsettings
    exact h.ne (Option.some.inj (Except.ok.inj hsettings))

/-- A choice that outlived no later one has a place in an order of the calls. -/
theorem serialisable_of_not_outlives
    (h : ∀ mine theirs, ¬ Outlives w s place others c mine theirs) :
    Serialisable w s (.choose client place) others c := by
  have hiff := serialAt_iff hamid hothers hs hw
  have hchanger := hamid.changer
  have hsettings := x.settings_amid client place seen during since
  rw [replies_append seen during, settledBy_append] at hsettings
  by_contra hnot
  have hlate : (x.afterAll (inOrder (.choose client place) others seen.length)).settings
      ≠ (x.amid (.choose client place) seen during since).settings := by
    intro hsame
    have hlength : seen.length ≤ others.length := by simp [hothers]
    have htake : others.take seen.length = seen := by
      rw [hothers, List.append_assoc, List.take_left]
    exact hnot ⟨seen.length, hlength, (hiff _).2 ⟨by rw [htake], hsame⟩⟩
  rw [settings_inOrder_seen hothers, hsettings] at hlate
  obtain ⟨mine, theirs, hmine, hsince, hduring, hne⟩ := exists_overtaken hlate
  rw [settledBy_of_nil hsince, settles_of_chosen hmine] at hsettings
  have hanswer := SecretCall.chosen?_choose.1 hmine
  refine h mine theirs ⟨hamid.chosen_iff.2 hanswer, ?_, ?_, hne, ?_⟩
  · exact hamid.store.settings.trans hsettings
  · rw [hchanger, replies_append, choices_append, hsince, List.append_nil, replies_append,
      choices_append, List.getLast?_append, hduring, Option.some_or]
  · intro p hp hdrop hresult
    rw [result_setActive_after hs hw client] at hresult
    rw [hchanger, ← hothers] at hdrop
    refine hnot ⟨p, hp, (hiff p).2 ⟨hresult.trans hanswer.symm, ?_⟩⟩
    rw [settings_inOrder, settledBy_of_nil hdrop,
      settles_of_chosen (SecretCall.chosen?_choose.2 hresult), hsettings]

end Amid

/-- **When a choice that others worked beside has a place in an order of the calls**: just when it
did not outlive a later one.  One caller chooses a credential while another one changes the secrets
and chooses as well, and all their transactions can be written. -/
theorem serialisable_iff_not_outlives {turns : List (Turn Party)}
    (hchooser : c.callers .chooser = .making [(choose client place).step])
    (hchanger : c.callers .changer = .making (others.map step))
    (htidy : Backend.hasBucket c.store Slot.settings.bucket = false →
      Slot.settings.held c.store = none)
    (hcalm : ∀ t ∈ turns, t.meets.fault = .none)
    (hended : ∀ i, ((c.after turns).callers i).calls = []) (hw : w.fault = .none) :
    Serialisable w c.store (.choose client place) others (c.after turns)
      ↔ ∀ mine theirs, ¬ Outlives w c.store place others (c.after turns) mine theirs := by
  let x : Secrets := ⟨stored c.store, Slot.settings.record c.store⟩
  have hs : x.In c.store := ⟨rfl, rfl, htidy⟩
  have hstart : Choosing x (.choose client place) others (c.callers .chooser)
      (c.callers .changer) c.store := by
    rw [hchooser, hchanger]
    exact .making hs _ others
  obtain ⟨seen, during, since, hothers, hamid⟩ :=
    (hstart.after hcalm).exists_choseAmid hended
  constructor
  · intro hserial mine theirs houtlives
    exact houtlives.not_serialisable hamid hothers hs hw hserial
  · exact serialisable_of_not_outlives hamid hothers hs hw

namespace Sample

/-- Surroundings in which every transaction can be written. -/
def vault : Surroundings where
  remote _ := .error (.remote "offline")
  editor := .ok
  fault := .none
  now := .epoch

/-- Two credentials. -/
def keys : List Credential := [{ name := "A", secret := "a" }, { name := "B", secret := "b" }]

def clerk : Client := ⟨{}, {}, .identity⟩

/-- The first credential is removed, and the one that is first then is chosen. -/
def tidying : List SecretCall := [.alter clerk (.remove [1]), .choose clerk 1]

/-- One caller chooses the first credential. -/
def clerks : Crowd Buckets Party where
  callers
    | .chooser => .making [(choose clerk 1).step]
    | .changer => .making (tidying.map step)
  store := ((Slot.credentials.store keys).update .none ⟨[]⟩).2

/-- The other calls begin and end right after the choice has read the list. -/
def crossedTurns : List (Turn Party) :=
  (.chooser :: (List.replicate 5 .changer ++ List.replicate 2 .chooser)).map (⟨·, vault⟩)

end Sample

/-- A credential that was removed ends up in use, although another one was chosen since. -/
theorem not_serialisable_clerks :
    ¬ Serialisable Sample.vault Sample.clerks.store (.choose Sample.clerk 1) Sample.tidying
      (Sample.clerks.after Sample.crossedTurns) := by
  have houtlives : Outlives Sample.vault Sample.clerks.store 1 Sample.tidying
      (Sample.clerks.after Sample.crossedTurns) (Credential.inUse { name := "A", secret := "a" })
      (Credential.inUse { name := "B", secret := "b" }) :=
    ⟨by decide +kernel, by decide +kernel, by decide +kernel, by decide +kernel,
      by decide +kernel⟩
  have hended : ∀ i, ((Sample.clerks.after Sample.crossedTurns).callers i).calls = [] := by
    rintro (_ | _) <;> exact List.isEmpty_iff.1 (by decide +kernel)
  intro hserial
  exact (serialisable_iff_not_outlives rfl rfl (by decide +kernel) (by decide) hended rfl).1
    hserial _ _ houtlives

end Notekeeper
