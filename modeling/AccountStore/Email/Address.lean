import AccountStore.Email.Host
import AccountStore.Email.International

/-!
E-mail addresses: a mailbox name and a host with an at sign between.

The last at sign separates the two. Lengths are bounded as in the mail transfer protocol: 64
characters before it, 255 after it.
-/

namespace AccountStore.Email
open Text

def isMailboxCharacter (c : Char) : Bool :=
  isLetterOrDigit c || ".!#$%&'*+/=?^_\x60\x7b|\x7d~-".toList.contains c

def isMailbox (cs : List Char) : Bool :=
  !cs.isEmpty && cs.length ≤ 64 && cs.all isMailboxCharacter

def isAddress (text : String) : Bool :=
  match splitLast? '@' text.toList with
  | none => false
  | some (mailbox, host) =>
      isMailbox mailbox && host.length ≤ 255 &&
        (isHost host || match toAscii? host with
          | some ascii => isHost ascii
          | none => false)

example : isAddress "a+tag@b.c" ∧ isAddress "a@m\u00fcnchen.de" ∧ ¬isAddress "a@@b.c" ∧
    ¬isAddress "a@b.c." ∧ ¬isAddress "\u00e9@b.c" := by decide +kernel

end AccountStore.Email
