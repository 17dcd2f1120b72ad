import BluetoothStack.Lib.Buffer
import BluetoothStack.Lib.Keyed
import BluetoothStack.Stream
import BluetoothStack.Hci.PacketFragmenter
import BluetoothStack.Hci.Reassembly
import BluetoothStack.Hci.Fragmentation
import BluetoothStack.Hci.RoundTrip
import BluetoothStack.Lib.Machine
import BluetoothStack.Lib.SeqWindow
import BluetoothStack.L2cap.Fcr
import BluetoothStack.L2cap.Window
import BluetoothStack.L2cap.Sar
import BluetoothStack.L2cap.Coc
import BluetoothStack.Lib.CString
import BluetoothStack.Types.Uuid
import BluetoothStack.Sdp.Record
import BluetoothStack.Sdp.Db
import BluetoothStack.Sdp.Request
import BluetoothStack.Sdp.Search
import BluetoothStack.Gatt.ConnectionManager
import BluetoothStack.Lib.Cmac
import BluetoothStack.Crypto.AesCmac
import BluetoothStack.Gatt.Hash
import BluetoothStack.Lib.Strip
import BluetoothStack.Osi.Config
import BluetoothStack.Osi.ConfigRoundTrip
import BluetoothStack.Lib.Reader
import BluetoothStack.L2cap.Signalling
import BluetoothStack.Gatt.Database
import BluetoothStack.Lib.LowerBound
import BluetoothStack.Gatt.DatabaseBuilder
import BluetoothStack.Hfp.AtParser
import BluetoothStack.Hfp.AtStream
import BluetoothStack.Lib.Ring
import BluetoothStack.Osi.Ringbuffer
import BluetoothStack.Lib.KeyedList
import BluetoothStack.Common.Lru
import BluetoothStack.Lib.Chunks
import BluetoothStack.Btm.BleMultiAdv
import BluetoothStack.Lib.FieldWalk
import BluetoothStack.Btm.AdvertiseDataParser
import BluetoothStack.Rfcomm.Frames
import BluetoothStack.Rfcomm.RoundTrip
import BluetoothStack.Types.RawAddress
import BluetoothStack.Lib.SwapScan
import BluetoothStack.Sdp.Discovery
import BluetoothStack.Rfcomm.Mx
import BluetoothStack.Hci.CommandFlow
import BluetoothStack.Sys.Utl
import BluetoothStack.Ag.ProcessAt
import BluetoothStack.Ag.AtParse
import BluetoothStack.Lib.SortedInsert
import BluetoothStack.Osi.Alarm
import BluetoothStack.Osi.AlarmRuns
import BluetoothStack.Avdt.Msg
import BluetoothStack.Avdt.MsgRuns
import BluetoothStack.Avdt.Ccb
import BluetoothStack.Avdt.CcbRuns
import BluetoothStack.Avdt.Cfg
import BluetoothStack.Avdt.CfgRoundTrip
import BluetoothStack.Avdt.Ind
import BluetoothStack.Avdt.IndRuns
