import NtHive.Basic
import NtHive.Utf16
import NtHive.BinarySearch
import NtHive.UppercaseTable
import NtHive.NameString.Compare
import NtHive.NameString.Convert
import NtHive.IndexRoot
import NtHive.KeyValue
import NtHive.KeyValue.Strings
import NtHive.KeyValue.MultiSZ
import NtHive.NameString.Display
import NtHive.NameString.Length
import NtHive.IndexRoot.Walk
import NtHive.KeyValue.NulPieces
