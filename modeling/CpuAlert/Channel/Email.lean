import CpuAlert.Channel

/-!
# The mail channel

One letter to all recipients at once. The sender is looked at first, then the
recipients in order. Their addresses are written into the head of the letter and
read from there when the envelope is made, so an address that was in quotes may
come back without them, or not at all. The head is read and written anew for
every recipient that is added, and begins anew if it cannot be read.

A body in ASCII with short lines travels as it is, with line ends of two
characters; any other has to be encoded.

## Main definitions

* `Email.Letter` — a letter
* `Email.compose` — the letter of a message
* `Email.Relay` — how the relay takes a letter
* `Channel.email` — the channel of a relay
-/

namespace CpuAlert

namespace Email

/-- A letter. A body that has to be encoded has no plain form. -/
structure Letter where
  sender : String
  recipients : List String
  subject : String
  contentType : String
  plainBody : Option String
  deriving DecidableEq, Repr

/-- The subject for a level. -/
def subject (level : Level) : String := "[hostwatch] CPU " ++ level.upperName

/-- The length from which on a line has to be encoded. -/
def longLine : Nat := 76

/-- Line ends of two characters. -/
def lineEnds (previous : Option Char) : List Char → List Char
  | [] => []
  | '\n' :: cs =>
    (if previous = some '\r' then ['\n'] else ['\r', '\n']) ++ lineEnds (some '\n') cs
  | c :: cs => c :: lineEnds (some c) cs

/-- The lengths of the lines of a text, each with the line end before it. -/
def lineLengths (current : Nat) : List Char → List Nat
  | [] => [current]
  | '\n' :: cs => current :: lineLengths 1 cs
  | _ :: cs => lineLengths (current + 1) cs

/-- The body as it travels, if it need not be encoded. -/
def plainBody? (body : String) : Option String :=
  let cs := body.toList
  if cs.all (·.toNat ≤ 127) && (lineLengths 0 cs).all (· < longLine) then
    some (String.ofList (lineEnds none cs))
  else none

/-- A mailbox as its address. -/
def address (s : String) : Except SendError Mailbox.Address :=
  (Mailbox.read s).mapError .address

/-- An address read from where it was written. -/
def reread? (a : Mailbox.Address) : Option Mailbox.Address := (Mailbox.read a.text).toOption

/-- The recipients in the head of a letter after one more. -/
def addRecipient (written : List Mailbox.Address) (a : Mailbox.Address) : List Mailbox.Address :=
  match written.mapM reread? with
  | some earlier => earlier ++ [a]
  | none => [a]

/-- The sender and the recipients of a letter with this head. -/
def envelope (sender : Mailbox.Address) (written : List Mailbox.Address) :
    Except SendError (Mailbox.Address × List Mailbox.Address) :=
  match reread? sender, written.mapM reread? with
  | none, _ => .error (.build "missing source address, invalid envelope")
  | some _, none => .error (.build "missing destination address, invalid envelope")
  | some _, some [] => .error (.build "missing destination address, invalid envelope")
  | some sender, some recipients => .ok (sender, recipients)

/-- The letter of a message. -/
def compose (sender : String) (recipients : List String) (level : Level) (body : String) :
    Except SendError Letter := do
  let sender ← address sender
  let recipients ← recipients.mapM address
  let (sender, recipients) ← envelope sender (recipients.foldl addRecipient [])
  return {
    sender := sender.text
    recipients := recipients.map (·.text)
    subject := subject level
    contentType := "text/plain; charset=utf-8"
    plainBody := plainBody? body }

/-- How the relay takes a letter: it is submitted, or not, for a reason. -/
abbrev Relay := Letter → Except String Unit

/-- One attempt. -/
def send (relay : Relay) (o : Notice) : Except SendError Unit := do
  let some sender := Text.nonBlank? o.credentials.gmailAddress
    | throw (.missingCredential "gmail_address")
  let some _ := Text.nonBlank? o.credentials.gmailPassword
    | throw (.missingCredential "gmail_app_password")
  let recipients := keepNonBlank o.config.recipients
  if recipients.isEmpty then throw (.noRecipients "recipient_emails")
  let letter ← compose sender recipients o.level o.message
  match relay letter with
  | .ok () => return ()
  | .error reason => throw (.smtp reason)

end Email

/-- The channel of a mail relay. -/
def Channel.email (relay : Email.Relay) : Channel where
  name := "email"
  isEnabled c := c.emailEnabled
  attempt _ o := { outcome := Email.send relay o }

end CpuAlert
