/-!
# Named permissions

The thirty-one things a member may be allowed to do, each with its name and its bit in a
64-bit mask. Bits 0 to 29 are in use, and bit 62 for the administrator, who passes every
check and whom no channel override touches. Bit 63 stays free, so that a mask is never
negative in a signed column.

    ofBit? p.bit = some p          (ofBit?_bit: no two permissions share a bit)
-/

namespace Turnstile

inductive Permission where
  | sendMessages
  | embedLinks
  | attachFiles
  | useEmoji
  | addReactions
  | voiceConnect
  | voiceSpeak
  | voiceMuteOthers
  | voiceDeafenOthers
  | voiceMoveMembers
  | manageMessages
  | timeoutMembers
  | kickMembers
  | banMembers
  | manageChannels
  | manageRoles
  | viewAuditLog
  | manageServer
  | transferOwnership
  | createInvite
  | manageInvites
  | managePages
  | screenShare
  | mentionEveryone
  | viewChannel
  | readMessageHistory
  | manageWebhooks
  | createThreads
  | manageThreads
  | manageEmojis
  | administrator
  deriving DecidableEq

namespace Permission

/-- All permissions, from the lowest bit to the highest. -/
def all : List Permission :=
  [.sendMessages, .embedLinks, .attachFiles, .useEmoji, .addReactions, .voiceConnect,
   .voiceSpeak, .voiceMuteOthers, .voiceDeafenOthers, .voiceMoveMembers, .manageMessages,
   .timeoutMembers, .kickMembers, .banMembers, .manageChannels, .manageRoles, .viewAuditLog,
   .manageServer, .transferOwnership, .createInvite, .manageInvites, .managePages, .screenShare,
   .mentionEveryone, .viewChannel, .readMessageHistory, .manageWebhooks, .createThreads,
   .manageThreads, .manageEmojis, .administrator]

def name : Permission → String
  | .sendMessages => "SEND_MESSAGES"
  | .embedLinks => "EMBED_LINKS"
  | .attachFiles => "ATTACH_FILES"
  | .useEmoji => "USE_EMOJI"
  | .addReactions => "ADD_REACTIONS"
  | .voiceConnect => "VOICE_CONNECT"
  | .voiceSpeak => "VOICE_SPEAK"
  | .voiceMuteOthers => "VOICE_MUTE_OTHERS"
  | .voiceDeafenOthers => "VOICE_DEAFEN_OTHERS"
  | .voiceMoveMembers => "VOICE_MOVE_MEMBERS"
  | .manageMessages => "MANAGE_MESSAGES"
  | .timeoutMembers => "TIMEOUT_MEMBERS"
  | .kickMembers => "KICK_MEMBERS"
  | .banMembers => "BAN_MEMBERS"
  | .manageChannels => "MANAGE_CHANNELS"
  | .manageRoles => "MANAGE_ROLES"
  | .viewAuditLog => "VIEW_AUDIT_LOG"
  | .manageServer => "MANAGE_SERVER"
  | .transferOwnership => "TRANSFER_OWNERSHIP"
  | .createInvite => "CREATE_INVITE"
  | .manageInvites => "MANAGE_INVITES"
  | .managePages => "MANAGE_PAGES"
  | .screenShare => "SCREEN_SHARE"
  | .mentionEveryone => "MENTION_EVERYONE"
  | .viewChannel => "VIEW_CHANNEL"
  | .readMessageHistory => "READ_MESSAGE_HISTORY"
  | .manageWebhooks => "MANAGE_WEBHOOKS"
  | .createThreads => "CREATE_THREADS"
  | .manageThreads => "MANAGE_THREADS"
  | .manageEmojis => "MANAGE_EMOJIS"
  | .administrator => "ADMINISTRATOR"

/-- The place of the permission in a mask. -/
def bit : Permission → Nat
  | .sendMessages => 0
  | .embedLinks => 1
  | .attachFiles => 2
  | .useEmoji => 3
  | .addReactions => 4
  | .voiceConnect => 5
  | .voiceSpeak => 6
  | .voiceMuteOthers => 7
  | .voiceDeafenOthers => 8
  | .voiceMoveMembers => 9
  | .manageMessages => 10
  | .timeoutMembers => 11
  | .kickMembers => 12
  | .banMembers => 13
  | .manageChannels => 14
  | .manageRoles => 15
  | .viewAuditLog => 16
  | .manageServer => 17
  | .transferOwnership => 18
  | .createInvite => 19
  | .manageInvites => 20
  | .managePages => 21
  | .screenShare => 22
  | .mentionEveryone => 23
  | .viewChannel => 24
  | .readMessageHistory => 25
  | .manageWebhooks => 26
  | .createThreads => 27
  | .manageThreads => 28
  | .manageEmojis => 29
  | .administrator => 62

/-- The permission at a place. -/
def ofBit? (i : Nat) : Option Permission := all.find? fun p => p.bit == i

theorem bit_lt (p : Permission) : p.bit < 64 := by cases p <;> decide

theorem mem_all (p : Permission) : p ∈ all := by cases p <;> decide

theorem ofBit?_bit (p : Permission) : ofBit? p.bit = some p := by cases p <;> rfl

theorem bit_inj {p q : Permission} (h : p.bit = q.bit) : p = q :=
  Option.some.inj ((ofBit?_bit p).symm.trans ((congrArg ofBit? h).trans (ofBit?_bit q)))

end Permission

end Turnstile
