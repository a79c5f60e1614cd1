import Mathlib.Data.List.Basic

/-!
# HCI and L2CAP numbers

Packet indicators, event codes, opcodes and status codes as BlueZ's headers define them, and the
relay's own scan and paging settings.
-/

set_option autoImplicit false

namespace DualSenseMitm

/-! ## Packets and events -/

def HCI_ACLDATA_PKT : UInt8 := 0x02
def HCI_EVENT_PKT : UInt8 := 0x04

def EVT_CONN_COMPLETE : UInt8 := 0x03
def EVT_CONN_REQUEST : UInt8 := 0x04
def EVT_DISCONN_COMPLETE : UInt8 := 0x05
def EVT_AUTH_COMPLETE : UInt8 := 0x06
def EVT_ENCRYPT_CHANGE : UInt8 := 0x08
def EVT_CMD_COMPLETE : UInt8 := 0x0e
def EVT_CMD_STATUS : UInt8 := 0x0f
def EVT_ROLE_CHANGE : UInt8 := 0x12
def EVT_NUM_COMP_PKTS : UInt8 := 0x13
def EVT_MODE_CHANGE : UInt8 := 0x14
def EVT_LINK_KEY_REQ : UInt8 := 0x17
def EVT_LINK_KEY_NOTIFY : UInt8 := 0x18
def EVT_IO_CAPABILITY_REQUEST : UInt8 := 0x31
def EVT_USER_CONFIRM_REQUEST : UInt8 := 0x33

/-! ## Commands -/

def OGF_LINK_CTL : UInt16 := 0x01
def OCF_CREATE_CONN : UInt16 := 0x0005
def OCF_DISCONNECT : UInt16 := 0x0006
def OCF_ACCEPT_CONN_REQ : UInt16 := 0x0009
def OCF_REJECT_CONN_REQ : UInt16 := 0x000a
def OCF_LINK_KEY_REPLY : UInt16 := 0x000b
def OCF_LINK_KEY_NEG_REPLY : UInt16 := 0x000c
def OCF_AUTH_REQUESTED : UInt16 := 0x0011
def OCF_SET_CONN_ENCRYPT : UInt16 := 0x0013
def OCF_IO_CAPABILITY_REPLY : UInt16 := 0x002b
def OCF_USER_CONFIRM_REPLY : UInt16 := 0x002c

def OGF_LINK_POLICY : UInt16 := 0x02
def OCF_SWITCH_ROLE : UInt16 := 0x000b
def OCF_WRITE_DEFAULT_LINK_POLICY : UInt16 := 0x000f

def OGF_HOST_CTL : UInt16 := 0x03
def OCF_SET_EVENT_MASK : UInt16 := 0x0001
def OCF_RESET : UInt16 := 0x0003
def OCF_WRITE_PAGE_TIMEOUT : UInt16 := 0x0018
def OCF_WRITE_SCAN_ENABLE : UInt16 := 0x001a
def OCF_WRITE_PAGE_ACTIVITY : UInt16 := 0x001c
def OCF_WRITE_AUTH_ENABLE : UInt16 := 0x0020
def OCF_WRITE_CLASS_OF_DEV : UInt16 := 0x0024
def OCF_WRITE_EXT_INQUIRY_RESPONSE : UInt16 := 0x0052
def OCF_WRITE_SIMPLE_PAIRING_MODE : UInt16 := 0x0056

def OGF_INFO_PARAM : UInt16 := 0x04
def OCF_READ_BUFFER_SIZE : UInt16 := 0x0005
def OCF_READ_BD_ADDR : UInt16 := 0x0009

def OGF_STATUS_PARAM : UInt16 := 0x05
def OCF_READ_LINK_QUALITY : UInt16 := 0x0003
def OCF_READ_RSSI : UInt16 := 0x0005
def OCF_READ_AFH_MAP : UInt16 := 0x0006

/-- `cmd_opcode_pack`. -/
def cmdOpcodePack (ogf ocf : UInt16) : UInt16 := (ocf &&& (0x03ff : UInt16)) ||| (ogf <<< (10 : UInt16))

/-! ## Status codes -/

def HCI_SUCCESS : UInt8 := 0x00
def HCI_PAGE_TIMEOUT : UInt8 := 0x04
def HCI_AUTHENTICATION_FAILURE : UInt8 := 0x05
def HCI_PIN_OR_KEY_MISSING : UInt8 := 0x06
def HCI_ACL_CONNECTION_EXISTS : UInt8 := 0x0b
def HCI_REJECTED_PERSONAL : UInt8 := 0x0f
def DISCONNECT_REMOTE_USER : UInt8 := 0x13

def AUTH_GENERAL_BONDING : UInt8 := 0x04
def LINK_MODE_SNIFF : UInt8 := 0x02

/-! ## Scan and paging settings -/

def SCAN_NONE : UInt8 := 0x00
def SCAN_PAGE_ONLY : UInt8 := 0x02
def PAGE_SCAN_INTERVAL_EAGER : UInt16 := 0x0400
def PAGE_SCAN_WINDOW_EAGER : UInt16 := 0x0120
def PAGE_SCAN_INTERVAL_NORMAL : UInt16 := 0x0800
def PAGE_SCAN_WINDOW_NORMAL : UInt16 := 0x0012
def PAGE_TIMEOUT_SLOTS : UInt16 := 0x0800
def HANDOVER_PAGE_TIMEOUT_SLOTS : UInt16 := 0x1000
def HCI_AUTH_ENABLE_VAL : UInt8 := 0x01
def LINK_POLICY_ROLE_SWITCH : UInt16 := 0x0001
def LINK_POLICY_SNIFF : UInt16 := 0x0004

/-- `ACL_PTYPE_MASK`: the DM and DH packet types. -/
def ACL_PTYPE_MASK : UInt16 := 0xcc18

/-- The three bytes of `CLASS_OF_DEVICE_GAMEPAD`. -/
def CLASS_OF_DEVICE_GAMEPAD : List UInt8 := [0x08, 0x25, 0x00]

/-- What `extended_inquiry0` starts with; the rest of the 240 bytes is zeros. -/
def extendedInquiry0 : List UInt8 := [
  0x05, 0x03, 0x24, 0x11, 0x00, 0x12, 0x1e, 0x09, 0x44, 0x75, 0x61, 0x6c, 0x53, 0x65, 0x6e, 0x73,
  0x65, 0x20, 0x57, 0x69, 0x72, 0x65, 0x6c, 0x65, 0x73, 0x73, 0x20, 0x43, 0x6f, 0x6e, 0x74, 0x72,
  0x6f, 0x6c, 0x6c, 0x65, 0x72, 0x09, 0x10, 0x02, 0x00, 0x4c, 0x05, 0xe6, 0x0c, 0x00, 0x01, 0x00]

/-! ## L2CAP -/

def L2CAP_CID_SIGNALLING : UInt16 := 0x0001
def L2CAP_MAX_PDU : ℕ := 4 + 65535

def L2CAP_CONN_REQ : UInt8 := 0x02
def L2CAP_CONN_RSP : UInt8 := 0x03
def L2CAP_CONF_REQ : UInt8 := 0x04
def L2CAP_CONF_RSP : UInt8 := 0x05
def L2CAP_DISCONN_REQ : UInt8 := 0x06
def L2CAP_DISCONN_RSP : UInt8 := 0x07

def L2CAP_CR_SUCCESS : UInt16 := 0x0000
def L2CAP_CR_PEND : UInt16 := 0x0001
def L2CAP_CONF_MTU : UInt8 := 0x01

def ACL_START_FLUSHABLE : UInt16 := 0x0002
def ACL_PB_CONT : UInt16 := 0x01

end DualSenseMitm
