import CpuAlert.Channel
import CpuAlert.Json.Value

/-!
# The bot channel

One request per chat, in the order of the configuration. The first answer that
is not a success ends the attempt, so a later attempt writes to all chats again.

## Main definitions

* `Telegram.Request` — a request to the bot host
* `Telegram.Host` — how the host answers
* `Telegram.send` — one attempt: the requests made and what came out
* `Channel.telegram` — the channel of a host
-/

namespace CpuAlert

namespace Telegram

/-- A request to the bot host. -/
structure Request where
  url : String
  chatId : String
  text : String
  deriving DecidableEq, Repr

/-- The body of a request. -/
def Request.body (r : Request) : Json.Value :=
  .object [("chat_id", .text r.chatId), ("text", .text r.text)]

/-- How a host answers its requests, numbered from zero: with a status, or not
at all, for a reason. -/
abbrev Host := Nat → Except String Nat

/-- The status of a success. -/
def isSuccess (status : Nat) : Bool := 200 ≤ status && status ≤ 299

/-- A base address without the slashes at its end. -/
def trimSlashes (base : String) : String :=
  String.ofList (base.toList.reverse.dropWhile (· == '/')).reverse

/-- The requests of one attempt, in order. -/
def requests (base token text : String) (chats : List String) : List Request :=
  chats.map fun chatId => ⟨trimSlashes base ++ "/bot" ++ token ++ "/sendMessage", chatId, text⟩

/-- Make requests until one fails, the first being the host's request number
`n`. -/
def post (host : Host) (n : Nat) : List Request → List Request × Except SendError Unit
  | [] => ([], .ok ())
  | r :: rs =>
    match host n with
    | .error reason => ([r], .error (.request reason))
    | .ok status =>
      if isSuccess status then
        -- the host counts its requests over all attempts
        let (made, outcome) := post host (n + 1) rs
        (r :: made, outcome)
      else ([r], .error (.httpStatus status))

/-- One attempt. Nothing is requested without a token or without a chat. -/
def send (base : String) (host : Host) (n : Nat) (o : Notice) :
    List Request × Except SendError Unit :=
  match Text.nonBlank? o.credentials.telegramToken with
  | none => ([], .error (.missingCredential "telegram token"))
  | some token =>
    match keepNonBlank o.config.chatIds with
    | [] => ([], .error (.noRecipients "telegram chat_ids"))
    | chats => post host n (requests base token o.message chats)

/-- The number of requests a host has received after some attempts. -/
def received (base : String) (host : Host) (earlier : List Notice) : Nat :=
  earlier.foldl (fun n o => n + (send base host n o).1.length) 0

/-- The public bot host. -/
def publicBase : String := "https://api.telegram.org"

end Telegram

/-- The channel of a bot host. -/
def Channel.telegram (base : String) (host : Telegram.Host) : Channel where
  name := "telegram"
  isEnabled c := c.telegramEnabled
  attempt earlier o :=
    { outcome := (Telegram.send base host (Telegram.received base host earlier) o).2 }

end CpuAlert
