import Gatehouse.Proofs.Captcha.Crowd
import Gatehouse.Proofs.Cache.Keys

/-!
# The account of a challenge

A challenge is sent to the cache once, by the one party that got its
identifier.  From then on every copy of it is held, on its way, taken or lost:
`Reachable.balance` is the account, and that a key is taken once at most
follows from it.
-/

set_option autoImplicit false

namespace Gatehouse.Captcha

open Service

/-! ## Parties keep to their flows -/

def Party.Follows (settings : Account.Settings) (deeds : List Deed) : Party → Prop
  | .issuing rest => (generate settings.captcha).Path deeds rest
  | .entering input rest => (Account.login settings input).Path deeds rest

theorem Party.Answered.follows (settings : Account.Settings) (party next : Party)
    (deeds : List Deed) (deed : Deed) (answered : party.Answered deed next)
    (follows : party.Follows settings deeds) : next.Follows settings (deeds ++ [deed]) := by
  cases answered with
  | issuing call next reply => exact Flow.Path.snoc _ deeds call next follows reply
  | entering input call next reply => exact Flow.Path.snoc _ deeds call next follows reply

theorem Party.Follows.posts (settings : Account.Settings)
    (required : settings.captchaRequired = true) (party : Party) (deeds : List Deed)
    (follows : party.Follows settings deeds) (deed : Deed) (done : deed ∈ deeds)
    (key value : String) (posts : deed.posts key value) :
    (∃ rest, party = .issuing rest) ∧ ∃ (session : Session) (id : Uuid),
      key = Cache.Key.captchaSession id ∧ value = session.text ∧
        deeds = [.dated session.createdAt, .other, .named id, deed] := by
  cases party with
  | entering input rest =>
      have attempt := Account.attempt_of_path settings input required deeds rest follows
      exact absurd posts (attempt.not_posts settings input deeds rest deed done key value)
  | issuing rest =>
      refine ⟨⟨rest, rfl⟩, ?_⟩
      have issuance := issuance_of_path settings.captcha deeds rest follows
      cases issuance with
      | posted session id last sent =>
          have same : deed = last := by
            rcases posts with rfl | rfl <;> simpa using done
          subst same
          obtain ⟨rfl, rfl⟩ := deed.posts_unique _ _ _ _ posts sent
          exact ⟨session, id, rfl, rfl, rfl⟩
      | _ => rcases posts with rfl | rfl <;> simp at done

namespace Crowd

theorem past_answer (crowd : Crowd) (shelf : Shelf) (parties : List Party) (number other : Nat)
    (deed : Deed) :
    past ⟨shelf, parties, crowd.history ++ [(number, deed)]⟩ other =
      if other = number then crowd.past other ++ [deed] else crowd.past other := by
  simp only [past, List.filter_append, List.map_append]
  by_cases same : number = other
  · simp [same]
  · simp [same, Ne.symm same]

theorem mem_past_iff (crowd : Crowd) (number : Nat) (deed : Deed) :
    deed ∈ crowd.past number ↔ (number, deed) ∈ crowd.history := by
  simp [past]

def posted (crowd : Crowd) (key : String) : Nat :=
  crowd.history.countP fun entry => entry.2.postsTo key

def taken (crowd : Crowd) (key : String) : Nat :=
  crowd.history.countP fun entry => entry.2.takesFrom key

theorem posted_snoc (crowd : Crowd) (shelf : Shelf) (parties : List Party) (number : Nat)
    (deed : Deed) (key : String) :
    posted ⟨shelf, parties, crowd.history ++ [(number, deed)]⟩ key =
      crowd.posted key + (deed.postsTo key).toNat := by
  rw [posted, List.countP_append, List.countP_singleton, posted]
  cases deed.postsTo key <;> rfl

theorem taken_snoc (crowd : Crowd) (shelf : Shelf) (parties : List Party) (number : Nat)
    (deed : Deed) (key : String) :
    taken ⟨shelf, parties, crowd.history ++ [(number, deed)]⟩ key =
      crowd.taken key + (deed.takesFrom key).toNat := by
  rw [taken, List.countP_append, List.countP_singleton, taken]
  cases deed.takesFrom key <;> rfl

theorem Reachable.present (settings : Account.Settings) (crowd : Crowd)
    (reached : Reachable settings crowd) (number : Nat) (deed : Deed)
    (done : (number, deed) ∈ crowd.history) : ∃ party, crowd.parties[number]? = some party := by
  suffices bound : number < crowd.parties.length from ⟨_, List.getElem?_eq_getElem bound⟩
  induction reached with
  | start crowd start => simp [start.history] at done
  | step crowd next reached step ih =>
      cases step with
      | issue => simpa using Nat.lt_succ_of_lt (ih done)
      | enter input => simpa using Nat.lt_succ_of_lt (ih done)
      | answer turn party next deed present answered admitted =>
          rw [List.length_set]
          rcases List.mem_append.mp done with earlier | now
          · exact ih earlier
          · obtain ⟨rfl, rfl⟩ := Prod.mk.inj (List.mem_singleton.mp now)
            exact (List.getElem?_eq_some_iff.mp present).1
      | lose key => exact ih done
      | arrive front back key value astray => exact ih done

theorem Reachable.follows (settings : Account.Settings) (crowd : Crowd)
    (reached : Reachable settings crowd) (number : Nat) (party : Party)
    (present : crowd.parties[number]? = some party) :
    party.Follows settings (crowd.past number) := by
  induction reached generalizing party with
  | start crowd start => simp [start.parties] at present
  | step crowd next reached step ih =>
      have joined : ∀ newcomer : Party, newcomer.Follows settings [] →
          (crowd.parties ++ [newcomer])[number]? = some party →
            party.Follows settings (crowd.past number) := by
        intro newcomer begins there
        rw [List.getElem?_append] at there
        split at there
        · exact ih party there
        · rename_i beyond
          have nothing : crowd.past number = [] := by
            refine List.eq_nil_iff_forall_not_mem.mpr fun deed done => ?_
            obtain ⟨absent, found⟩ := reached.present settings crowd number deed
              ((crowd.mem_past_iff number deed).mp done)
            exact beyond (List.getElem?_eq_some_iff.mp found).1
          obtain ⟨last, same⟩ := List.getElem?_eq_some_iff.mp there
          rw [List.getElem_singleton] at same
          rw [nothing, ← same]
          exact begins
      cases step with
      | issue =>
          refine joined _ ?_ present
          exact (Flow.path_nil _ _).mpr rfl
      | enter input =>
          refine joined _ ?_ present
          exact (Flow.path_nil _ _).mpr rfl
      | answer turn actor next deed there answered admitted =>
          rw [past_answer]
          by_cases same : number = turn
          · subst same
            have bound := (List.getElem?_eq_some_iff.mp there).1
            rw [List.getElem?_set_self bound] at present
            obtain rfl := Option.some.inj present
            rw [if_pos rfl]
            exact answered.follows settings actor next _ deed (ih actor there)
          · rw [List.getElem?_set_ne (Ne.symm same)] at present
            rw [if_neg same]
            exact ih party present
      | lose key => exact ih party present
      | arrive front back key value astray => exact ih party present

/-! ## Sent once -/

theorem Reachable.named_once (settings : Account.Settings) (crowd : Crowd)
    (reached : Reachable settings crowd) (number other : Nat) (id : Uuid)
    (one : (number, .named id) ∈ crowd.history) (two : (other, .named id) ∈ crowd.history) :
    number = other := by
  induction reached with
  | start crowd start => simp [start.history] at one
  | step crowd next reached step ih =>
      cases step with
      | answer turn party next deed present answered admitted =>
          rw [List.mem_append, List.mem_singleton, Prod.mk.injEq] at one two
          rcases one with one | ⟨rfl, rfl⟩ <;> rcases two with two | ⟨rfl, same⟩
          · exact ih one two
          · subst same
            exact absurd one (admitted number)
          · exact absurd two (admitted other)
          · rfl
      | _ => exact ih one two

/-- When a party has just sent a value to a key, nobody had sent one before. -/
theorem Reachable.first_post (settings : Account.Settings)
    (required : settings.captchaRequired = true) (crowd : Crowd)
    (reached : Reachable settings crowd) (number : Nat) (front : List Deed) (deed : Deed)
    (past : crowd.past number = front ++ [deed]) (key value : String)
    (posts : deed.posts key value) (other : Nat) (also : Deed) (text : String)
    (done : (other, also) ∈ crowd.history) (repeated : also.posts key text) :
    other = number ∧ also ∉ front := by
  have last : (number, deed) ∈ crowd.history :=
    (crowd.mem_past_iff number deed).mp (by simp [past])
  obtain ⟨party, present⟩ := reached.present settings crowd number deed last
  obtain ⟨-, session, id, rfl, -, whole⟩ :=
    (reached.follows settings crowd number party present).posts settings required party _ deed
      ((crowd.mem_past_iff number deed).mpr last) key value posts
  obtain ⟨sender, there⟩ := reached.present settings crowd other also done
  obtain ⟨-, former, named, sameKey, -, before⟩ :=
    (reached.follows settings crowd other sender there).posts settings required sender _ also
      ((crowd.mem_past_iff other also).mpr done) _ text repeated
  have sameId : id = named := Cache.Key.captchaSession_injective id named sameKey
  subst sameId
  have here : (number, .named id) ∈ crowd.history :=
    (crowd.mem_past_iff number _).mp (by simp [whole])
  have elsewhere : (other, .named id) ∈ crowd.history :=
    (crowd.mem_past_iff other _).mp (by simp [before])
  have start : front = [.dated session.createdAt, .other, .named id] := by
    have joined : front ++ [deed] = [.dated session.createdAt, .other, .named id] ++ [deed] :=
      past.symm.trans whole
    exact List.append_cancel_right joined
  refine ⟨reached.named_once settings crowd other number id elsewhere here, ?_⟩
  rw [start]
  rcases repeated with rfl | rfl <;> simp

theorem Reachable.posted_le_one (settings : Account.Settings)
    (required : settings.captchaRequired = true) (crowd : Crowd)
    (reached : Reachable settings crowd) (key : String) : crowd.posted key ≤ 1 := by
  induction reached with
  | start crowd start => simp [posted, start.history]
  | step crowd next reached step ih =>
      have after := Reachable.step crowd next reached step
      cases step with
      | answer turn party next deed present answered admitted =>
          rw [posted_snoc]
          cases sends : deed.postsTo key with
          | false => simpa using ih
          | true =>
              obtain ⟨value, posts⟩ := (deed.postsTo_iff key).mp sends
              have none : crowd.posted key = 0 := by
                refine List.countP_eq_zero.mpr ?_
                rintro ⟨other, also⟩ done again
                obtain ⟨text, repeated⟩ := (also.postsTo_iff key).mp again
                have past := crowd.past_answer (crowd.shelf.after deed)
                  (crowd.parties.set turn next) turn turn deed
                rw [if_pos rfl] at past
                obtain ⟨rfl, absent⟩ := after.first_post settings required _ turn _ deed past key
                  value posts other also text (List.mem_append_left _ done) repeated
                exact absent ((crowd.mem_past_iff other also).mpr done)
              simp [none]
      | _ => exact ih

/-! ## The account -/

theorem copies_put (shelf : Shelf) (place key : String) (value : Option String) :
    (shelf.put place value).copies key =
      if key = place then value.isSome.toNat + shelf.astray.countP (fun entry => entry.1 == key)
      else shelf.copies key := by
  rw [Shelf.copies, Shelf.put]
  by_cases same : key = place
  · simp [same]
  · simp [same, Shelf.copies]

theorem copies_after (crowd : Crowd) (deed : Deed) (admitted : crowd.Admits deed)
    (key : String) :
    (crowd.shelf.after deed).copies key + (deed.takesFrom key).toNat ≤
      crowd.shelf.copies key + (deed.postsTo key).toNat := by
  cases deed with
  | stored place value =>
      simp only [Shelf.after, copies_put, Deed.takesFrom, Deed.postsTo]
      by_cases same : key = place
      · simp [same, Shelf.copies]
        omega
      · simp [same]
  | sent place value =>
      simp only [Shelf.after, Shelf.copies, Deed.takesFrom, Deed.postsTo, List.countP_cons]
      by_cases same : place = key
      · simp [same]
        omega
      · simp [same]
  | took place found =>
      obtain rfl := admitted
      simp only [Shelf.after, copies_put, Deed.postsTo]
      by_cases same : key = place
      · subst same
        cases held : crowd.shelf.held key with
        | none => simp [Deed.takesFrom, Shelf.copies, held]
        | some value =>
            simp only [Deed.takesFrom, Shelf.copies, held, if_true, Option.isSome_some,
              Option.isSome_none, Bool.toNat_true, Bool.toNat_false, beq_self_eq_true]
            omega
      · have differs : (Deed.took place (crowd.shelf.held place)).takesFrom key = false := by
          cases crowd.shelf.held place <;> simp [Deed.takesFrom, Ne.symm same]
        simp [same, differs]
  | deleted place =>
      simp only [Shelf.after, copies_put, Deed.takesFrom, Deed.postsTo]
      by_cases same : key = place
      · simp [same, Shelf.copies]
      · simp [same]
  | _ => exact Nat.le_refl _

/-- What was taken and what there is of a challenge was sent. -/
theorem Reachable.balance (settings : Account.Settings) (crowd : Crowd)
    (reached : Reachable settings crowd) (id : Uuid) :
    crowd.taken (Cache.Key.captchaSession id) +
        crowd.shelf.copies (Cache.Key.captchaSession id) ≤
      crowd.posted (Cache.Key.captchaSession id) := by
  induction reached with
  | start crowd start =>
      simp [taken, posted, Shelf.copies, start.history, start.held, start.astray]
  | step crowd next reached step ih =>
      cases step with
      | issue => exact ih
      | enter input => exact ih
      | answer turn party next deed present answered admitted =>
          have change := copies_after crowd deed admitted (Cache.Key.captchaSession id)
          rw [taken_snoc, posted_snoc]
          dsimp only
          omega
      | lose key =>
          have fewer : (crowd.shelf.put key none).copies (Cache.Key.captchaSession id) ≤
              crowd.shelf.copies (Cache.Key.captchaSession id) := by
            rw [copies_put]
            split <;> simp [Shelf.copies]
          exact Nat.le_trans (Nat.add_le_add_left fewer _) ih
      | arrive front back key value astray =>
          have fewer : Shelf.copies ⟨(crowd.shelf.put key (some value)).held, front ++ back⟩
              (Cache.Key.captchaSession id) ≤
                crowd.shelf.copies (Cache.Key.captchaSession id) := by
            simp only [Shelf.copies, Shelf.put, astray, List.countP_append, List.countP_cons]
            by_cases same : Cache.Key.captchaSession id = key
            · simp [same]
              omega
            · simp [same, Ne.symm same]
          exact Nat.le_trans (Nat.add_le_add_left fewer _) ih

theorem eq_of_countP_le_one {α : Type} (test : α → Bool) (list : List α)
    (few : list.countP test ≤ 1) (one other : α) (here : one ∈ list) (there : other ∈ list)
    (passes : test one = true) (also : test other = true) : one = other := by
  have first := List.mem_filter.mpr ⟨here, passes⟩
  have second := List.mem_filter.mpr ⟨there, also⟩
  rw [List.countP_eq_length_filter] at few
  rcases kept : list.filter test with _ | ⟨single, _ | ⟨extra, rest⟩⟩
  · simp [kept] at first
  · rw [kept, List.mem_singleton] at first second
    exact first.trans second.symm
  · simp [kept] at few

theorem Reachable.taken_once (settings : Account.Settings)
    (required : settings.captchaRequired = true) (crowd : Crowd)
    (reached : Reachable settings crowd) (id : Uuid) (number other : Nat) (value text : String)
    (one : (number, .took (Cache.Key.captchaSession id) (some value)) ∈ crowd.history)
    (two : (other, .took (Cache.Key.captchaSession id) (some text)) ∈ crowd.history) :
    number = other ∧ value = text := by
  have balance := reached.balance settings crowd id
  have once := reached.posted_le_one settings required crowd (Cache.Key.captchaSession id)
  have few : crowd.taken (Cache.Key.captchaSession id) ≤ 1 := by omega
  have same := eq_of_countP_le_one _ crowd.history few _ _ one two (by simp [Deed.takesFrom])
    (by simp [Deed.takesFrom])
  simpa using same

/-! ## Where a value comes from -/

def Seen (crowd : Crowd) (key value : String) : Prop :=
  crowd.shelf.held key = some value ∨ (key, value) ∈ crowd.shelf.astray ∨
    ∃ number, (number, .took key (some value)) ∈ crowd.history

theorem held_of_put (shelf : Shelf) (place key : String) (value : Option String) (found : String)
    (held : (shelf.put place value).held key = some found) :
    (key = place ∧ value = some found) ∨ shelf.held key = some found := by
  simp only [Shelf.put] at held
  split at held
  · rename_i same
    exact Or.inl ⟨same, held⟩
  · exact Or.inr held

theorem seen_of_after (crowd : Crowd) (parties : List Party) (turn : Nat) (deed : Deed)
    (admitted : crowd.Admits deed) (key value : String)
    (seen : Seen ⟨crowd.shelf.after deed, parties, crowd.history ++ [(turn, deed)]⟩ key value) :
    crowd.Seen key value ∨ deed.posts key value := by
  rcases seen with held | astray | ⟨number, taken⟩
  · cases deed with
    | stored place fresh =>
        rcases held_of_put _ _ _ _ _ held with ⟨rfl, new⟩ | old
        · obtain rfl := Option.some.inj new
          exact Or.inr (Or.inl rfl)
        · exact Or.inl (Or.inl old)
    | took place found =>
        rcases held_of_put _ _ _ _ _ held with ⟨_, new⟩ | old
        · cases new
        · exact Or.inl (Or.inl old)
    | deleted place =>
        rcases held_of_put _ _ _ _ _ held with ⟨_, new⟩ | old
        · cases new
        · exact Or.inl (Or.inl old)
    | _ => exact Or.inl (Or.inl held)
  · cases deed with
    | sent place fresh =>
        rcases List.mem_cons.mp astray with same | old
        · cases same
          exact Or.inr (Or.inr rfl)
        · exact Or.inl (Or.inr (Or.inl old))
    | _ => exact Or.inl (Or.inr (Or.inl astray))
  · rcases List.mem_append.mp taken with old | now
    · exact Or.inl (Or.inr (Or.inr ⟨number, old⟩))
    · obtain ⟨rfl, rfl⟩ := Prod.mk.inj (List.mem_singleton.mp now)
      exact Or.inl (Or.inl admitted.symm)

theorem Reachable.origin (settings : Account.Settings) (crowd : Crowd)
    (reached : Reachable settings crowd) (id : Uuid) (value : String)
    (seen : crowd.Seen (Cache.Key.captchaSession id) value) :
    ∃ number deed, (number, deed) ∈ crowd.history ∧
      deed.posts (Cache.Key.captchaSession id) value := by
  induction reached with
  | start crowd start => simp [Seen, start.held, start.astray, start.history] at seen
  | step crowd next reached step ih =>
      cases step with
      | issue => exact ih seen
      | enter input => exact ih seen
      | answer turn party next deed present answered admitted =>
          have earlier := crowd.seen_of_after (crowd.parties.set turn next) turn deed admitted
            (Cache.Key.captchaSession id) value seen
          rcases earlier with old | posts
          · obtain ⟨number, former, done, posts⟩ := ih old
            exact ⟨number, former, List.mem_append_left _ done, posts⟩
          · exact ⟨turn, deed, List.mem_append_right _ (List.mem_singleton.mpr rfl), posts⟩
      | lose key =>
          rcases seen with held | rest
          · rcases held_of_put _ _ _ _ _ held with ⟨_, new⟩ | old
            · cases new
            · exact ih (Or.inl old)
          · exact ih (Or.inr rest)
      | arrive front back key stray astray =>
          refine ih ?_
          rcases seen with held | waiting | taken
          · rcases held_of_put _ _ _ _ _ held with ⟨same, new⟩ | old
            · obtain rfl := Option.some.inj new
              exact Or.inr (Or.inl (by simp [astray, same]))
            · exact Or.inl old
          · refine Or.inr (Or.inl ?_)
            rw [astray]
            rcases List.mem_append.mp waiting with early | late
            · exact List.mem_append_left _ early
            · exact List.mem_append_right _ (List.mem_cons_of_mem _ late)
          · exact Or.inr (Or.inr taken)

end Crowd

end Gatehouse.Captcha
