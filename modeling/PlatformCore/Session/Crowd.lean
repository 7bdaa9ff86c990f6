/-
  Logins of several callers at once.

  A login is made of parts that other callers may come between: the look at the ban list, the
  question to the users, the recording of a failure, and the announcement of each event that the
  failure raised.  Each part by itself is done at once.  What the users say comes with the question,
  since they may change their mind meanwhile.

  * `Crowd.move?` makes one move of one caller, if it can be made, and reports it;
  * `Crowd.run?` makes a list of moves, so a run may mix the callers in any way;
  * `servesAs_login`: a caller whom nobody comes between is served as by `Gateway.login`.
-/
import PlatformCore.Session.Gateway

namespace PlatformCore.Session

/-! ## Attempts -/

/-- How far a login has come: it was called, its client was found not to be banned, the users judged
    its credentials, and, where they turned these down, the failure was recorded and some events are
    still to be announced. -/
inductive Progress where
  | called
  | cleared
  | judged (isAccepted : Bool)
  | rejected (events : List Event)
deriving DecidableEq, Repr

/-- A login that has not been answered. -/
structure Attempt where
  client : String
  credentials : Credentials
  progress : Progress := .called
deriving DecidableEq, Repr

/-- Callers at a gateway, each with at most one login that has not been answered. -/
structure Crowd where
  bans : BanList := {}
  attempts : Registry Nat Attempt := ∅

namespace Crowd

/-! ## Moves -/

/-- A move of a caller. -/
inductive Move where
  | call (n : Nat) (m : Http.Method) (client : String) (c : Credentials)
  | look (n : Nat) (now : Int)
  | judge (n : Nat) (isAccepted : Bool)
  | settle (n : Nat) (now : Int)
  | announce (n : Nat)
deriving DecidableEq, Repr

/-- What is reported of a run. -/
inductive Entry where
  | judged (n : Nat) (isAccepted : Bool)
  | recorded (n : Nat) (newlyBanned : Bool)
  | announced (n : Nat) (e : Event)
  | answered (n : Nat) (r : Response)
deriving DecidableEq, Repr

def Entry.event? : Entry → Option Event
  | announced _ e => some e
  | _ => none

def advance (l : Crowd) (n : Nat) (a : Attempt) (p : Progress) : Crowd :=
  { l with attempts := l.attempts.insert n { a with progress := p } }

def answer (l : Crowd) (n : Nat) (r : Response) : Crowd × List Entry :=
  ({ l with attempts := l.attempts.erase n }, [.answered n r])

/-- A caller calls login: by the wrong method it is answered at once. -/
def call (l : Crowd) (n : Nat) (m : Http.Method) (client : String) (c : Credentials) :
    Crowd × List Entry :=
  if m ≠ .post then l.answer n .methodNotAllowed
  else (l.advance n ⟨client, c, .called⟩ .called, [])

variable (g : Gateway)

def look (l : Crowd) (n : Nat) (a : Attempt) (now : Int) : Crowd × List Entry :=
  match g.ensureNotBanned now a.client l.bans with
  | (.error _, bans) => { l with bans := bans }.answer n .unauthorized
  | (.ok (), bans) => ({ l with bans := bans }.advance n a .cleared, [])

/-- A caller whose credentials were accepted gets its token; one whose credentials were not has
    its failure recorded. -/
def settle (l : Crowd) (n : Nat) (a : Attempt) (isAccepted : Bool) (now : Int) :
    Crowd × List Entry :=
  if isAccepted then l.answer n (g.accept now a.client a.credentials.login l.bans).response
  else
    let (newlyBanned, bans, _) := g.recordFailure now a.client l.bans
    let events := rejectionEvents a.client a.credentials.login newlyBanned
    ({ l with bans := bans }.advance n a (.rejected events), [.recorded n newlyBanned])

def move? (l : Crowd) : Move → Option (Crowd × List Entry)
  | .call n m client c =>
    match l.attempts.get? n with
    | some _ => none
    | none => some (l.call n m client c)
  | .look n now =>
    match l.attempts.get? n with
    | some ⟨client, c, .called⟩ => some (l.look g n ⟨client, c, .called⟩ now)
    | _ => none
  | .judge n isAccepted =>
    match l.attempts.get? n with
    | some ⟨client, c, .cleared⟩ =>
      some (l.advance n ⟨client, c, .cleared⟩ (.judged isAccepted), [.judged n isAccepted])
    | _ => none
  | .settle n now =>
    match l.attempts.get? n with
    | some ⟨client, c, .judged isAccepted⟩ =>
      some (l.settle g n ⟨client, c, .judged isAccepted⟩ isAccepted now)
    | _ => none
  | .announce n =>
    match l.attempts.get? n with
    | some ⟨client, c, .rejected (e :: es)⟩ =>
      some (l.advance n ⟨client, c, .rejected (e :: es)⟩ (.rejected es), [.announced n e])
    | some ⟨_, _, .rejected []⟩ => some (l.answer n .unauthorized)
    | _ => none

/-- Makes a list of moves, if they can be made, and reports them. -/
def run? (l : Crowd) : List Move → Option (Crowd × List Entry)
  | [] => some (l, [])
  | m :: ms => do
    let (l, es) ← l.move? g m
    let (l, fs) ← l.run? ms
    return (l, es ++ fs)

/-! ## A caller by itself -/

variable {g : Gateway} {l k : Crowd} {n : Nat} {m : Move} {ms : List Move} {es : List Entry}

theorem run?_cons (h : l.move? g m = some (k, es)) :
    l.run? g (m :: ms) = (k.run? g ms).map fun r => (r.1, es ++ r.2) := by
  simp only [run?, h, Option.bind_eq_bind, Option.bind_some]
  cases k.run? g ms <;> rfl

/-- Some moves answer a caller so that they leave the ban list `bans`, and announce `events`
    before the answer `r`. -/
def ServesAs (g : Gateway) (l : Crowd) (n : Nat) (bans : BanList) (events : List Event)
    (r : Response) : Prop :=
  ∃ ms k es, l.run? g ms = some (k, es) ∧ k.bans = bans ∧ k.attempts.get? n = none ∧
    es.filterMap Entry.event? = events ∧ es.getLast? = some (.answered n r)

variable {bans : BanList} {events : List Event} {r : Response} {client : String} {c : Credentials}

theorem servesAs_of_move? {events' : List Event} (h : l.move? g m = some (k, es))
    (he : events = es.filterMap Entry.event? ++ events')
    (hk : k.ServesAs g n bans events' r) : l.ServesAs g n bans events r := by
  obtain ⟨ms, k', fs, hr, hb, hn, he', ha⟩ := hk
  refine ⟨m :: ms, k', es ++ fs, by rw [run?_cons h, hr]; rfl, hb, hn, ?_, ?_⟩
  · rw [List.filterMap_append, he', he]
  · rw [List.getLast?_append, ha]; rfl

theorem servesAs_of_answer (h : l.move? g m = some (k.answer n r)) :
    l.ServesAs g n k.bans [] r := by
  refine ⟨[m], { k with attempts := k.attempts.erase n }, [.answered n r], ?_, rfl,
    Registry.get?_erase_self, rfl, rfl⟩
  rw [run?_cons h]; rfl

theorem get?_advance {a : Attempt} {p : Progress} :
    (l.advance n a p).attempts.get? n = some { a with progress := p } :=
  Registry.get?_insert_self

theorem servesAs_of_rejected (h : l.attempts.get? n = some ⟨client, c, .rejected events⟩) :
    l.ServesAs g n l.bans events .unauthorized := by
  induction events generalizing l with
  | nil => exact servesAs_of_answer (m := .announce n) (by simp only [move?, h])
  | cons e events ih =>
    exact servesAs_of_move? (m := .announce n) (by simp only [move?, h]; rfl) rfl
      (ih (l := l.advance n _ _) get?_advance)

theorem servesAs_of_judged {isAccepted : Bool} (now : Int)
    (h : l.attempts.get? n = some ⟨client, c, .judged isAccepted⟩) (o : Outcome)
    (ho : o = if isAccepted then g.accept now client c.login l.bans
      else g.reject now client c.login l.bans) :
    l.ServesAs g n o.bans o.events o.response := by
  have hm : l.move? g (.settle n now) =
      some (l.settle g n ⟨client, c, .judged isAccepted⟩ isAccepted now) := by
    simp only [move?, h]
  cases isAccepted with
  | true =>
    rw [if_pos rfl] at ho
    have hb : o.bans = l.bans := by rw [ho, Gateway.accept]; split <;> rfl
    have he : o.events = [] := by rw [ho, Gateway.accept]; split <;> rfl
    rw [hb, he]
    refine servesAs_of_answer (hm.trans ?_)
    rw [settle, if_pos rfl, ho]
  | false =>
    rcases hr : g.recordFailure now client l.bans with ⟨newlyBanned, bans, notices⟩
    simp only [Bool.false_eq_true, if_false, Gateway.reject, hr] at ho
    simp only [settle, Bool.false_eq_true, if_false, hr] at hm
    subst ho
    exact servesAs_of_move? hm rfl (servesAs_of_rejected get?_advance)

/-- **A caller whom nobody comes between** leaves the ban list, announces the events and gets the
    answer of `Gateway.login`. -/
theorem servesAs_login {verify : String → String → Bool} {now : Int} {m : Http.Method}
    (h : l.attempts.get? n = none) (o : Outcome)
    (ho : o = g.login verify now m client c l.bans) :
    l.ServesAs g n o.bans o.events o.response := by
  have hm : l.move? g (.call n m client c) = some (l.call n m client c) := by simp only [move?, h]
  by_cases hp : m ≠ .post
  · rw [Gateway.login, if_pos hp] at ho
    rw [call, if_pos hp] at hm
    subst ho
    exact servesAs_of_answer hm
  rw [call, if_neg hp] at hm
  refine servesAs_of_move? hm rfl ?_
  generalize hk : l.advance n ⟨client, c, .called⟩ .called = k
  have hb : k.bans = l.bans := by rw [← hk]; rfl
  have hn : k.attempts.get? n = some ⟨client, c, .called⟩ := by rw [← hk]; exact get?_advance
  have hm : k.move? g (.look n now) = some (k.look g n ⟨client, c, .called⟩ now) := by
    simp only [move?, hn]
  rw [Gateway.login, if_neg hp, ← hb] at ho
  rcases hg : g.ensureNotBanned now client k.bans with ⟨_ | _, bans⟩
  · simp only [look, hg] at hm ho
    subst ho
    exact servesAs_of_answer hm
  · simp only [look, hg] at hm ho
    refine servesAs_of_move? hm rfl ?_
    generalize hj : ({ k with bans := bans } : Crowd).advance n _ _ = j
    have hjb : j.bans = bans := by rw [← hj]; rfl
    have hjn : j.attempts.get? n = some ⟨client, c, .cleared⟩ := by rw [← hj]; exact get?_advance
    refine servesAs_of_move? (m := .judge n (verify c.login c.password))
      (by simp only [move?, hjn]; rfl) rfl ?_
    refine servesAs_of_judged now get?_advance o ?_
    rw [ho, ← hjb]; rfl

end Crowd

end PlatformCore.Session
