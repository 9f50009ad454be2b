import Mathlib.Data.List.Sigma
import CpuAlert.Channel.Telegram
import CpuAlert.Proofs.Delivery.Cancellation

/-!
# Who has got the message

The bot channel writes to one chat after the other, and an attempt ends with the
first answer that is no success. A later attempt begins with the first chat again.
So every attempt reaches the chats from the first one up to some place in the list,
and a successful one all of them; a chat is written to once in an attempt, for each
time that it is listed.

How long the pauses between attempts are makes no difference to any of this. None
is longer than thirty years, so a delivery with longer ones is a delivery with
pauses of thirty years in their place.

## Main definitions

* `Telegram.answering` — a host that answers with these statuses
* `Telegram.IsAddressOf`, `Telegram.posting` — where a message is posted, and how
* `Telegram.IsPosted` — requests up to the first one that is refused
* `Telegram.attemptOf`, `Telegram.traffic` — the requests of an attempt, and of the
  first attempts of a delivery
* `Telegram.IsAccountOf` — what a result says of the requests

## Main results

* `Telegram.send_cases` — what one attempt does
* `Delivery.exists_run_notify` — a message through every enabled channel, whatever
  the pauses
* `Delivery.InTurn.of_mem_zip` — what a result says of the attempts of its channel
* `Telegram.every_chat_reached` — one attempt, and the attempts of a delivery
-/

namespace CpuAlert

/-! ## One attempt -/

/-- The entries that are kept are the trimmed ones of which something is left. -/
theorem keepNonBlank_eq (items : List String) :
    keepNonBlank items = (items.map Text.trim).filter (· ≠ "") := by
  induction items with
  | nil => rfl
  | cons s items ih =>
    rw [keepNonBlank] at ih ⊢
    rw [List.filterMap_cons, Text.nonBlank?, List.map_cons, List.filter_cons, ih]
    by_cases h : Text.trim s = "" <;> simp [h]

namespace Telegram

/-- A host that answers its requests with these statuses. -/
def answering (statuses : Nat → Nat) : Host := fun i => .ok (statuses i)

/-- The requests that are made, of those that were meant, and what comes out, if the
host gives them these answers: all, or all up to the first that is no success. -/
inductive IsPosted (answers : Nat → Nat) (meant : List Request) :
    List Request × Except SendError Unit → Prop
  | all (h : ∀ i < meant.length, 200 ≤ answers i ∧ answers i ≤ 299) :
      IsPosted answers meant (meant, .ok ())
  | upTo {i : Nat} (hi : i < meant.length)
      (hbefore : ∀ j < i, 200 ≤ answers j ∧ answers j ≤ 299)
      (hrefused : ¬ (200 ≤ answers i ∧ answers i ≤ 299)) :
      IsPosted answers meant (meant.take (i + 1), .error (.httpStatus (answers i)))

variable {answers : Nat → Nat} {meant : List Request} {x : List Request × Except SendError Unit}

theorem isSuccess_iff {status : Nat} : isSuccess status = true ↔ 200 ≤ status ∧ status ≤ 299 := by
  simp [isSuccess]

/-- A first request that is a success, and what comes of the others. -/
theorem IsPosted.cons (hfirst : 200 ≤ answers 0 ∧ answers 0 ≤ 299)
    (h : IsPosted (fun i => answers (i + 1)) meant x) (r : Request) :
    IsPosted answers (r :: meant) (r :: x.1, x.2) := by
  have hnext : ∀ {n : Nat}, (∀ j < n, 200 ≤ answers (j + 1) ∧ answers (j + 1) ≤ 299) →
      ∀ j < n + 1, 200 ≤ answers j ∧ answers j ≤ 299 := by
    intro n hothers j hj
    cases j with
    | zero => exact hfirst
    | succ j => exact hothers j (Nat.lt_of_succ_lt_succ hj)
  cases h with
  | all h => exact .all (hnext h)
  | upTo hi hbefore hrefused => exact .upTo (Nat.succ_lt_succ hi) (hnext hbefore) hrefused

/-- Requests are made until one is refused. -/
theorem isPosted_post (statuses : Nat → Nat) (n : Nat) (meant : List Request) :
    IsPosted (fun i => statuses (n + i)) meant (post (answering statuses) n meant) := by
  induction meant generalizing n with
  | nil => exact .all nofun
  | cons r meant ih =>
    simp only [post, answering]
    split
    · rename_i hsuccess
      have hrest := ih (n + 1)
      simp only [Nat.add_right_comm n 1, Nat.add_assoc n] at hrest
      exact .cons (isSuccess_iff.mp hsuccess) hrest r
    · rename_i hrefused
      exact .upTo (i := 0) (Nat.succ_pos _) nofun fun hsuccess =>
        hrefused (isSuccess_iff.mpr hsuccess)

/-- What is made is the beginning of what was meant. -/
theorem IsPosted.begins (h : IsPosted answers meant x) : x.1 <+: meant := by
  cases h with
  | all => exact List.prefix_rfl
  | upTo => exact List.take_prefix _ _

/-- It is successful only if all was made, and every answer was a success. -/
theorem IsPosted.all_of_ok (h : IsPosted answers meant x) (hok : x.2 = .ok ()) :
    x = (meant, .ok ()) ∧ ∀ i < meant.length, 200 ≤ answers i ∧ answers i ≤ 299 := by
  cases h with
  | all h => exact ⟨rfl, h⟩
  | upTo => cases hok

/-- The token of a notice. -/
def token (o : Notice) : String := Text.trim o.credentials.telegramToken

/-- The chats of a notice, in the order of the configuration. -/
def chats (o : Notice) : List String := (o.config.chatIds.map Text.trim).filter (· ≠ "")

/-- The address of a host, which is its base without the slashes at the end. -/
structure IsAddressOf (base address : String) : Prop where
  slashes : ∃ n, base.toList = address.toList ++ List.replicate n '/'
  bare : address.toList.getLast? ≠ some '/'

theorem isAddressOf_trimSlashes (base : String) : IsAddressOf base (trimSlashes base) := by
  have hreverse : ∀ cs : List Char, ∃ n, cs = List.replicate n '/' ++ cs.dropWhile (· == '/') := by
    intro cs
    induction cs with
    | nil => exact ⟨0, rfl⟩
    | cons c cs ih =>
      obtain ⟨n, hn⟩ := ih
      by_cases hslash : c = '/'
      · subst hslash
        exact ⟨n + 1, congrArg ('/' :: ·) hn⟩
      · exact ⟨0, by rw [List.dropWhile_cons_of_neg (by simpa using hslash)]; rfl⟩
  rw [trimSlashes]
  constructor
  · obtain ⟨n, hn⟩ := hreverse base.toList.reverse
    refine ⟨n, ?_⟩
    rw [String.toList_ofList, ← List.reverse_inj, List.reverse_append, List.reverse_reverse,
      List.reverse_replicate]
    exact hn
  · rw [String.toList_ofList, List.getLast?_reverse]
    intro hfirst
    have hnot := List.head?_dropWhile_not (· == '/') base.toList.reverse
    rw [hfirst] at hnot
    cases hnot

/-- The request that posts a message to a chat. -/
def posting (address : String) (o : Notice) (chat : String) : Request where
  url := address ++ "/bot" ++ token o ++ "/sendMessage"
  chatId := chat
  text := o.message

/-- What is posted is the chat and the message. -/
theorem body_posting (address : String) (o : Notice) (chat : String) :
    (posting address o chat).body =
      .object [("chat_id", .text chat), ("text", .text o.message)] := by
  rw [Request.body, posting]

/-- An attempt is meant to post the message to every chat. -/
theorem requests_eq (base : String) (o : Notice) :
    requests base (token o) o.message (chats o) =
      (chats o).map (posting (trimSlashes base) o) := by
  rw [requests]
  rfl

/-- What one attempt does: nothing without a token or without a chat, and otherwise
one request after the other until one is refused. -/
theorem send_cases (base : String) (statuses : Nat → Nat) (n : Nat) (o : Notice) :
    (token o = "" ∧
      send base (answering statuses) n o = ([], .error (.missingCredential "telegram token"))) ∨
    (token o ≠ "" ∧ chats o = [] ∧
      send base (answering statuses) n o = ([], .error (.noRecipients "telegram chat_ids"))) ∨
    (token o ≠ "" ∧ chats o ≠ [] ∧
      IsPosted (fun i => statuses (n + i)) ((chats o).map (posting (trimSlashes base) o))
        (send base (answering statuses) n o)) := by
  have htrimmed : Text.trim o.credentials.telegramToken = token o := rfl
  have hkept : (o.config.chatIds.map Text.trim).filter (· ≠ "") = chats o := rfl
  rw [← requests_eq, send, Text.nonBlank?, keepNonBlank_eq, htrimmed, hkept]
  by_cases htoken : token o = ""
  · exact .inl ⟨htoken, by rw [if_pos htoken]⟩
  · rw [if_neg htoken]
    cases chats o with
    | nil => exact .inr (.inl ⟨htoken, rfl, rfl⟩)
    | cons chat others =>
      exact .inr (.inr ⟨htoken, List.cons_ne_nil _ _, isPosted_post statuses n _⟩)

/-- The requests that are made post the message to the first chats, or to none. -/
theorem send_begins (base : String) (statuses : Nat → Nat) (n : Nat) (o : Notice) :
    (send base (answering statuses) n o).1 <+: (chats o).map (posting (trimSlashes base) o) := by
  rcases send_cases base statuses n o with ⟨-, h⟩ | ⟨-, -, h⟩ | ⟨-, -, h⟩
  · rw [h]
    exact List.nil_prefix
  · rw [h]
    exact List.nil_prefix
  · exact h.begins

end Telegram

/-! ## Pauses of any length -/

/-- The longest pause between two attempts, in seconds. -/
def World.longestPause : Nat := longestWait / Delivery.millisPerSecond

/-- No pause lasts longer than the longest. -/
theorem World.perform_pause_eq_min (w : World) (seconds : Nat) :
    w.perform (.pause (seconds * Delivery.millisPerSecond)) =
      w.perform (.pause (min seconds longestPause * Delivery.millisPerSecond)) := by
  have hzero : min seconds longestPause * Delivery.millisPerSecond = 0 ↔
      seconds * Delivery.millisPerSecond = 0 := by
    simp only [longestPause, longestWait, Delivery.millisPerSecond]
    omega
  have hmin : min (min seconds longestPause * Delivery.millisPerSecond) longestWait =
      min (seconds * Delivery.millisPerSecond) longestWait := by
    simp only [longestPause, longestWait, Delivery.millisPerSecond]
    omega
  by_cases hcancelled : w.isCancelled = true
  · rw [perform_pause_of_isCancelled hcancelled, perform_pause_of_isCancelled hcancelled]
  · have hnot := eq_false_of_ne_true hcancelled
    rw [perform_pause_eq hnot, perform_pause_eq hnot]
    simp only [hzero, await, hmin]

namespace Delivery

/-- The delays of which none is longer than the longest pause. -/
def shortened (delays : List Nat) : List Nat := delays.map (min · World.longestPause)

theorem run_tries_eq (c : Channel × Nat) (o : Notice) (made : Nat) (pauses : List Nat)
    (w : World) :
    (tries c.2 c.1 o made pauses).run w = (tries c.2 c.1 o made (shortened pauses)).run w := by
  induction pauses generalizing made w with
  | nil => rfl
  | cons pause pauses ih =>
    obtain ⟨next, htries, hnext⟩ := tries_cons_eq c o made pause pauses
    obtain ⟨next', htries', hnext'⟩ :=
      tries_cons_eq c o made (min pause World.longestPause) (shortened pauses)
    rw [shortened, List.map_cons, ← shortened, htries, htries', Program.run_step, Program.run_step]
    obtain ⟨hfinal, hretry⟩ := hnext { outcome := (w.perform (.send c.2 c.1 o)).1 }
    obtain ⟨hfinal', hretry'⟩ := hnext' { outcome := (w.perform (.send c.2 c.1 o)).1 }
    -- both programs send, and they differ only in the pause that may follow
    by_cases hlast : ({ outcome := (w.perform (.send c.2 c.1 o)).1 } : Attempt).IsFinal
    · rw [hfinal hlast, hfinal' hlast]
    · rw [hretry hlast, hretry' hlast, retry, retry, Program.run_step, Program.run_step,
        World.perform_pause_eq_min]
      split
      · rfl
      · exact ih _ _

theorem run_through_eq (o : Notice) (pauses : List Nat) (cs : List (Channel × Nat)) (w : World) :
    (through o pauses cs).run w = (through o (shortened pauses) cs).run w := by
  induction cs generalizing w with
  | nil => rfl
  | cons c cs ih =>
    rw [through_cons_eq, through_cons_eq, Program.run_bind, Program.run_bind, ← run_tries_eq,
      Program.run_step, Program.run_step]
    split
    · rfl
    · rw [Program.run_bind, Program.run_bind, ih]

/-- In a calm world a message goes through every enabled channel, whatever the pauses
between the attempts. -/
theorem exists_run_notify (channels : List Channel) (config : Config) (credentials : Credentials)
    (level : Level) (message : String) {w : World} (hw : w.IsCalm)
    (hfires : ∀ c ∈ enabled channels config, ∀ i < config.schedule.length,
      (w.script (notice config credentials level message) c i).fires = false) :
    ∃ results sends end_ waits,
      (notify channels config credentials level message).run w =
        (results, w.later sends end_ waits) ∧
      InTurn (w.script (notice config credentials level message))
        (notice config credentials level message) (shortened config.schedule) w.uptime
        (enabled channels config) results sends end_ := by
  obtain ⟨pauses, last, hschedule⟩ : ∃ pauses last, config.schedule = pauses ++ [last] :=
    ⟨_, _, (List.dropLast_concat_getLast config.schedule_ne_nil).symm⟩
  rw [hschedule, List.length_append] at hfires
  have hshortened : shortened (pauses ++ [last]) =
      shortened pauses ++ [min last World.longestPause] := List.map_append
  rw [notify, hschedule, List.dropLast_concat, run_through_eq, hshortened]
  refine run_through hw _ (nodup_places channels config) (fun _ _ => rfl) _
    (fun c hc i hi => hfires c hc i ?_) fun d hd => ?_
  · rw [shortened, List.length_map] at hi
    exact Nat.lt_succ_of_le hi
  · obtain ⟨pause, -, rfl⟩ := List.mem_map.mp hd
    calc min pause World.longestPause * millisPerSecond
      _ ≤ World.longestPause * millisPerSecond := Nat.mul_le_mul_right _ (Nat.min_le_right ..)
      _ ≤ World.longestWait := Nat.div_mul_le_self ..

/-! ## The attempts of a channel among others -/

/-- A channel is asked to send the same in every attempt. -/
theorem map_notice_sendsOf (σ : Nat → Attempt) (delays : List Nat) (o : Notice)
    (c : Channel × Nat) (time attempts : Nat) :
    (sendsOf σ delays o c time attempts).map (·.notice) = List.replicate attempts o := by
  rw [sendsOf, List.map_map]
  exact List.map_const'.trans (congrArg (List.replicate · o) List.length_range)

namespace InTurn

variable {σ : Channel × Nat → Nat → Attempt} {o : Notice} {delays : List Nat} {time end_ : Nat}
  {cs : List (Channel × Nat)} {rs : List ChannelOutcome} {sends : List Sending}

/-- Only these channels are asked to send. -/
theorem place_of_mem (h : InTurn σ o delays time cs rs sends end_) {s : Sending} (hs : s ∈ sends) :
    s.place ∈ cs.map Prod.snd := by
  induction h with
  | nil => cases hs
  | cons _ _ _ _ ih =>
    rw [List.map_cons]
    rcases List.mem_append.mp hs with hown | hother
    · exact place_of_mem_sendsOf hown ▸ List.mem_cons_self
    · exact List.mem_cons_of_mem _ (ih hother)

/-- What a result says is what became of the message in its channel, and the channel
was asked to send it as often as it says. -/
theorem of_mem_zip (h : InTurn σ o delays time cs rs sends end_)
    (hplaces : (cs.map Prod.snd).Nodup) {x : (Channel × Nat) × ChannelOutcome}
    (hx : x ∈ cs.zip rs) :
    IsDelivered (σ x.1) delays.length x.2 ∧
      (sends.filter (·.place = x.1.2)).map (·.notice) = List.replicate x.2.attempts o := by
  induction h with
  | nil => cases hx
  | @cons time end_ c cs r rs sends last _ hr hlast hrest ih =>
    rw [List.map_cons, List.nodup_cons] at hplaces
    rw [List.zip_cons_cons, List.mem_cons] at hx
    rw [List.filter_append, List.map_append]
    rcases hx with rfl | hx
    · -- what follows is for other places
      have hown : ∀ s ∈ sendsOf (σ c) delays o c time (last + 1), s.place = c.2 :=
        fun s hs => place_of_mem_sendsOf hs
      have hothers : ∀ s ∈ sends, s.place ≠ c.2 := fun s hs heq =>
        hplaces.1 (heq ▸ hrest.place_of_mem hs)
      have hnone : sends.filter (·.place = c.2) = [] := by simpa using hothers
      have hall : (sendsOf (σ c) delays o c time (last + 1)).filter (·.place = c.2) =
          sendsOf (σ c) delays o c time (last + 1) := by simpa using hown
      refine ⟨hr, ?_⟩
      rw [hall, hnone, hlast, List.map_nil, List.append_nil, map_notice_sendsOf]
    · -- and what came before was for another one
      have hplace : x.1.2 ∈ cs.map Prod.snd := List.mem_map_of_mem (List.of_mem_zip hx).1
      have hothers : ∀ s ∈ sendsOf (σ c) delays o c time (last + 1), s.place ≠ x.1.2 :=
        fun s hs heq => hplaces.1 (place_of_mem_sendsOf hs ▸ heq ▸ hplace)
      have hnone : (sendsOf (σ c) delays o c time (last + 1)).filter (·.place = x.1.2) = [] := by
        simpa using hothers
      rw [hnone, List.map_nil, List.nil_append]
      exact ih hplaces.2 hx

end InTurn

end Delivery

namespace Telegram

variable {base : String} {statuses : Nat → Nat} {past : List Notice} {o : Notice}

/-- An attempt of a delivery, counted from zero, by a channel that was asked this before. -/
def attemptOf (base : String) (statuses : Nat → Nat) (past : List Notice) (o : Notice) (i : Nat) :
    List Request × Except SendError Unit :=
  send base (answering statuses)
    (received base (answering statuses) (past ++ List.replicate i o)) o

/-- The requests of the first attempts of a delivery, each with the number of its chat
in the list. -/
def traffic (base : String) (statuses : Nat → Nat) (past : List Notice) (o : Notice)
    (attempts : Nat) : List (Request × Nat) :=
  (List.range attempts).flatMap fun i => (attemptOf base statuses past o i).1.zipIdx

theorem outcome_attempt (base : String) (host : Host) (past : List Notice) (o : Notice) :
    ((Channel.telegram base host).attempt past o).outcome =
      (send base host (received base host past) o).2 := by
  rw [Channel.telegram]

/-- What is made is the beginning of the requests to all chats, or nothing. -/
theorem attemptOf_begins (base : String) (statuses : Nat → Nat) (past : List Notice) (o : Notice)
    (i : Nat) :
    (attemptOf base statuses past o i).1 <+: (chats o).map (posting (trimSlashes base) o) :=
  send_begins ..

/-- A request has the number of its chat. -/
theorem getElem?_of_mem_traffic {attempts : Nat} {x : Request × Nat}
    (hx : x ∈ traffic base statuses past o attempts) :
    ((chats o).map (posting (trimSlashes base) o))[x.2]? = some x.1 := by
  obtain ⟨i, -, hmade⟩ := List.mem_flatMap.mp hx
  rw [List.mem_zipIdx_iff_getElem?] at hmade
  obtain ⟨rest, hrest⟩ := attemptOf_begins base statuses past o i
  rw [← hrest, List.getElem?_append_left (List.getElem?_eq_some_iff.mp hmade).1, hmade]

/-- A bound for one attempt goes over to all. -/
theorem countP_traffic_le {p : Request × Nat → Bool} {bound : Nat}
    (h : ∀ i, (attemptOf base statuses past o i).1.zipIdx.countP p ≤ bound) (attempts : Nat) :
    (traffic base statuses past o attempts).countP p ≤ attempts * bound := by
  induction attempts with
  | zero => exact Nat.zero_le _
  | succ attempts ih =>
    have hlast : traffic base statuses past o (attempts + 1) =
        traffic base statuses past o attempts ++
          (attemptOf base statuses past o attempts).1.zipIdx := by
      simp only [traffic, List.range_succ, List.flatMap_append, List.flatMap_singleton]
    rw [hlast, List.countP_append, Nat.succ_mul]
    exact Nat.add_le_add ih (h attempts)

/-- A chat of the list is written to once in an attempt, at most. -/
theorem countP_number_le (attempts number : Nat) :
    (traffic base statuses past o attempts).countP (·.2 = number) ≤ attempts := by
  have hone (i : Nat) :
      (attemptOf base statuses past o i).1.zipIdx.countP (·.2 = number) ≤ 1 := by
    have hnodup := List.nodup_zipIdx_map_snd (attemptOf base statuses past o i).1
    have hcount := List.nodup_iff_count_le_one.mp hnodup number
    rw [List.count_eq_countP, List.countP_map] at hcount
    exact hcount
  simpa only [Nat.mul_one] using countP_traffic_le hone attempts

theorem countP_posting (address : String) (o : Notice) (chat : String) :
    ((chats o).map (posting address o)).countP (·.chatId = chat) = (chats o).count chat := by
  rw [List.countP_map, List.count_eq_countP]
  rfl

/-- Requests with the same chat are as many as the list has this chat, at most, in one
attempt. -/
theorem countP_chatId_le (attempts : Nat) (chat : String) :
    (traffic base statuses past o attempts).countP (·.1.chatId = chat) ≤
      attempts * (chats o).count chat := by
  refine countP_traffic_le (fun i => ?_) attempts
  have hmade := (attemptOf_begins base statuses past o i).sublist.countP_le (p := (·.chatId = chat))
  rw [countP_posting] at hmade
  have hfst (l : List Request) :
      l.zipIdx.countP (·.1.chatId = chat) = l.countP (·.chatId = chat) := by
    conv_rhs => rw [← List.zipIdx_map_fst 0 l, List.countP_map]
    rfl
  rw [hfst]
  exact hmade

/-- What a result says of the requests of its channel, if that was asked this before. -/
structure IsAccountOf (base : String) (statuses : Nat → Nat) (past : List Notice) (o : Notice)
    (r : ChannelOutcome) : Prop where
  /-- After a success, the last attempt wrote to every chat. -/
  all_of_success : r.success = true → 0 < r.attempts ∧
    attemptOf base statuses past o (r.attempts - 1) =
      ((chats o).map (posting (trimSlashes base) o), .ok ())
  /-- Every answer to it was a success. -/
  answers_of_success : r.success = true → ∀ i < (chats o).length,
    let answer := statuses (received base (answering statuses)
      (past ++ List.replicate (r.attempts - 1) o) + i)
    200 ≤ answer ∧ answer ≤ 299
  /-- No request was made but those, each to the chat with its number in the list. -/
  listed : ∀ x ∈ traffic base statuses past o r.attempts,
    ((chats o).map (posting (trimSlashes base) o))[x.2]? = some x.1
  /-- A chat of the list was written to as often as there were attempts, at most. -/
  number_le : ∀ number, (traffic base statuses past o r.attempts).countP (·.2 = number) ≤ r.attempts
  /-- A chat that is listed more than once was so that many times more often. -/
  chatId_le : ∀ chat, (traffic base statuses past o r.attempts).countP (·.1.chatId = chat) ≤
    r.attempts * (chats o).count chat

/-- An attempt that is a success wrote to every chat. -/
theorem attemptOf_of_ok {i : Nat} (h : (attemptOf base statuses past o i).2 = .ok ()) :
    attemptOf base statuses past o i = ((chats o).map (posting (trimSlashes base) o), .ok ()) ∧
      ∀ j < (chats o).length,
        let answer := statuses (received base (answering statuses)
          (past ++ List.replicate i o) + j)
        200 ≤ answer ∧ answer ≤ 299 := by
  rw [attemptOf] at h ⊢
  rcases send_cases base statuses (received base (answering statuses)
    (past ++ List.replicate i o)) o with ⟨-, hsend⟩ | ⟨-, -, hsend⟩ | ⟨-, -, hposted⟩
  · rw [hsend] at h
    cases h
  · rw [hsend] at h
    cases h
  · obtain ⟨hall, hanswers⟩ := hposted.all_of_ok h
    rw [List.length_map] at hanswers
    exact ⟨hall, hanswers⟩

/-- The result of a delivery is an account of the requests of its attempts. -/
theorem isAccountOf {n : Nat} {r : ChannelOutcome} {σ : Nat → Attempt}
    (hσ : ∀ i, (σ i).outcome = (attemptOf base statuses past o i).2)
    (hr : Delivery.IsDelivered σ n r) : IsAccountOf base statuses past o r := by
  have hlast : r.success = true →
      0 < r.attempts ∧ (attemptOf base statuses past o (r.attempts - 1)).2 = .ok () := by
    intro hsuccess
    obtain ⟨k, hsettles, hok⟩ := hr.success_iff.mp hsuccess
    rw [hr.attempts_of_settles k hsettles, Nat.add_sub_cancel, ← hσ]
    exact ⟨Nat.succ_pos k, hok⟩
  exact
    { all_of_success := fun h => ⟨(hlast h).1, (attemptOf_of_ok (hlast h).2).1⟩
      answers_of_success := fun h => (attemptOf_of_ok (hlast h).2).2
      listed := fun _ => getElem?_of_mem_traffic
      number_le := countP_number_le r.attempts
      chatId_le := countP_chatId_le r.attempts }

open Delivery (enabled notice notify) in
/-- What is requested for a chat is that the bot with the token of the notice sends the
chat its message, at the address of the host. An attempt requests this for the trimmed
chats that are not blank, one after the other until an answer is no success. So after a
delivery that was not cancelled, a success means that the last attempt wrote to all of
them, and none was written to more than once in an attempt. -/
theorem every_chat_reached (base : String) (statuses : Nat → Nat) :
    (IsAddressOf base (trimSlashes base) ∧
      ∀ (o : Notice) (chat : String),
        posting (trimSlashes base) o chat =
          ⟨trimSlashes base ++ "/bot" ++ token o ++ "/sendMessage", chat, o.message⟩ ∧
        (posting (trimSlashes base) o chat).body =
          .object [("chat_id", .text chat), ("text", .text o.message)]) ∧
    (∀ (n : Nat) (o : Notice),
      (send base (answering statuses) n o).1 <+: (chats o).map (posting (trimSlashes base) o) ∧
      ((token o = "" ∧ send base (answering statuses) n o =
          ([], .error (.missingCredential "telegram token"))) ∨
        (token o ≠ "" ∧ chats o = [] ∧ send base (answering statuses) n o =
          ([], .error (.noRecipients "telegram chat_ids"))) ∨
        (token o ≠ "" ∧ chats o ≠ [] ∧
          IsPosted (fun i => statuses (n + i)) ((chats o).map (posting (trimSlashes base) o))
            (send base (answering statuses) n o)))) ∧
    ∀ (channels : List Channel) (config : Config) (credentials : Credentials) (level : Level)
      (message : String) (w : World), w.IsCalm →
      (∀ c ∈ enabled channels config, ∀ i < config.schedule.length,
        (w.script (notice config credentials level message) c i).fires = false) →
      ∃ results v, (notify channels config credentials level message).run w = (results, v) ∧
        results.map (·.channel) = (enabled channels config).map (·.1.name) ∧
        ∀ x ∈ (enabled channels config).zip results,
          x.1.1 = Channel.telegram base (answering statuses) →
            v.sentBy x.1.2 = w.sentBy x.1.2 ++
              List.replicate x.2.attempts (notice config credentials level message) ∧
            IsAccountOf base statuses (w.sentBy x.1.2) (notice config credentials level message)
              x.2 := by
  refine ⟨⟨isAddressOf_trimSlashes base, fun o chat => ⟨rfl, body_posting _ o chat⟩⟩,
    fun n o => ⟨send_begins base statuses n o, send_cases base statuses n o⟩,
    fun channels config credentials level message w hw hfires => ?_⟩
  obtain ⟨results, sends, end_, waits, hrun, hturn⟩ :=
    Delivery.exists_run_notify channels config credentials level message hw hfires
  refine ⟨results, _, hrun, hturn.map_channel, fun x hx htelegram => ?_⟩
  obtain ⟨hdelivered, hsends⟩ := hturn.of_mem_zip (Delivery.nodup_places channels config) hx
  have hσ (i : Nat) : (w.script (notice config credentials level message) x.1 i).outcome =
      (attemptOf base statuses (w.sentBy x.1.2) (notice config credentials level message) i).2 := by
    rw [World.script, htelegram, attemptOf, outcome_attempt]
  refine ⟨?_, isAccountOf hσ hdelivered⟩
  rw [World.sentBy_later, hsends]

/-- The first chat gets the message twice, since the second answer is no success. -/
theorem every_chat_reached_twice :
    let config : Config :=
      { telegramEnabled := true, chatIds := [" 1 ", "", "2"], retryDelays := [10 ^ 12, 0] }
    let statuses : Nat → Nat := fun i => if i = 1 then 429 else 200
    let channels := [Delivery.idle, .telegram publicBase (answering statuses)]
    let o := Delivery.notice config { telegramToken := " t " } .warning "load"
    Delivery.quiet.IsCalm ∧
    (∀ c ∈ Delivery.enabled channels config, ∀ i < config.schedule.length,
      (Delivery.quiet.script o c i).fires = false) ∧
    IsAccountOf publicBase statuses [] o { channel := "telegram", success := true, attempts := 2 } ∧
    (traffic publicBase statuses [] o 2).map (·.1) =
      ["1", "2", "1", "2"].map fun chat =>
        ⟨"https://api.telegram.org/bott/sendMessage", chat, "load"⟩ := by
  intro config statuses channels o
  have hcalm : Delivery.quiet.IsCalm := ⟨rfl, rfl⟩
  have hfires : ∀ c ∈ Delivery.enabled channels config, ∀ i < config.schedule.length,
      (Delivery.quiet.script o c i).fires = false := by
    intro c hc i _
    obtain rfl : c = (.telegram publicBase (answering statuses), 1) := by
      have hc' : c ∈ [(Channel.telegram publicBase (answering statuses), 1)] := hc
      simpa using hc'
    rfl
  obtain ⟨results, v, hrun, -, haccounts⟩ := (every_chat_reached publicBase statuses).2.2 channels
    config { telegramToken := " t " } .warning "load" Delivery.quiet hcalm hfires
  have hresults : results = [{ channel := "telegram", success := true, attempts := 2 }] :=
    (congrArg Prod.fst hrun).symm.trans (by decide +kernel)
  subst hresults
  exact ⟨hcalm, hfires, (haccounts _ List.mem_cons_self rfl).2, by decide +kernel⟩

end Telegram

end CpuAlert
