/-!
# Flags

The named permissions of a server, each with the bit it occupies in a mask and the label it carries
in text. The bits are 0 to 22 in the order of `Flag.all`; the higher bits of a mask have no name and
are reserved.
-/

namespace ChannelAccess

set_option autoImplicit false

inductive Flag where
  | viewChannels
  | readHistory
  | sendMessages
  | embedLinks
  | attachFiles
  | addReactions
  | mentionEveryone
  | manageMessages
  | voiceConnect
  | voiceSpeak
  | screenShare
  | voiceMuteOthers
  | voiceMoveMembers
  | timeoutMembers
  | kickMembers
  | banMembers
  | manageNicknames
  | viewAuditLog
  | manageChannels
  | manageRoles
  | manageServer
  | createInvite
  | manageInvites
deriving DecidableEq

namespace Flag

def all : List Flag :=
  [ .viewChannels, .readHistory, .sendMessages, .embedLinks, .attachFiles, .addReactions,
    .mentionEveryone, .manageMessages, .voiceConnect, .voiceSpeak, .screenShare,
    .voiceMuteOthers, .voiceMoveMembers, .timeoutMembers, .kickMembers, .banMembers,
    .manageNicknames, .viewAuditLog, .manageChannels, .manageRoles, .manageServer,
    .createInvite, .manageInvites ]

def index : Flag → Nat
  | .viewChannels => 0
  | .readHistory => 1
  | .sendMessages => 2
  | .embedLinks => 3
  | .attachFiles => 4
  | .addReactions => 5
  | .mentionEveryone => 6
  | .manageMessages => 7
  | .voiceConnect => 8
  | .voiceSpeak => 9
  | .screenShare => 10
  | .voiceMuteOthers => 11
  | .voiceMoveMembers => 12
  | .timeoutMembers => 13
  | .kickMembers => 14
  | .banMembers => 15
  | .manageNicknames => 16
  | .viewAuditLog => 17
  | .manageChannels => 18
  | .manageRoles => 19
  | .manageServer => 20
  | .createInvite => 21
  | .manageInvites => 22

def label : Flag → String
  | .viewChannels => "VIEW_CHANNELS"
  | .readHistory => "READ_HISTORY"
  | .sendMessages => "SEND_MESSAGES"
  | .embedLinks => "EMBED_LINKS"
  | .attachFiles => "ATTACH_FILES"
  | .addReactions => "ADD_REACTIONS"
  | .mentionEveryone => "MENTION_EVERYONE"
  | .manageMessages => "MANAGE_MESSAGES"
  | .voiceConnect => "VOICE_CONNECT"
  | .voiceSpeak => "VOICE_SPEAK"
  | .screenShare => "SCREEN_SHARE"
  | .voiceMuteOthers => "VOICE_MUTE_OTHERS"
  | .voiceMoveMembers => "VOICE_MOVE_MEMBERS"
  | .timeoutMembers => "TIMEOUT_MEMBERS"
  | .kickMembers => "KICK_MEMBERS"
  | .banMembers => "BAN_MEMBERS"
  | .manageNicknames => "MANAGE_NICKNAMES"
  | .viewAuditLog => "VIEW_AUDIT_LOG"
  | .manageChannels => "MANAGE_CHANNELS"
  | .manageRoles => "MANAGE_ROLES"
  | .manageServer => "MANAGE_SERVER"
  | .createInvite => "CREATE_INVITE"
  | .manageInvites => "MANAGE_INVITES"

def ofLabel? (label : String) : Option Flag :=
  all.find? fun flag => flag.label == label

/-- The flag with this label, ASCII letters of either case being equal. -/
def ofLabelIgnoringCase? (label : String) : Option Flag :=
  ofLabel? (label.map Char.toUpper)

theorem mem_all (flag : Flag) : flag ∈ all := by
  cases flag <;> decide

theorem index_lt (flag : Flag) : flag.index < 23 := by
  cases flag <;> decide

theorem of_label_label (flag : Flag) : ofLabel? flag.label = some flag := by
  cases flag <;> decide

end Flag

end ChannelAccess
