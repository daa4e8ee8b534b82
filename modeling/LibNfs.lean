import LibNfs.Capi.Errors
import LibNfs.Capi.Ownership
import LibNfs.Client.AsyncContext
import LibNfs.Client.Attributes
import LibNfs.Client.BackendV3
import LibNfs.Client.BackendV4
import LibNfs.Client.Durability
import LibNfs.Client.Encrypted
import LibNfs.Client.Exclusion
import LibNfs.Client.FailedOpen
import LibNfs.Client.LegalNames
import LibNfs.Client.Listing
import LibNfs.Client.LockManager
import LibNfs.Client.Locking
import LibNfs.Client.NamesAgree
import LibNfs.Client.Pread
import LibNfs.Client.Pwrite
import LibNfs.Client.ReadWhole
import LibNfs.Client.Resolution
import LibNfs.Client.ResolveLoop
import LibNfs.Client.UrlSyntax
import LibNfs.Client.Versions
import LibNfs.Client.Walking
import LibNfs.Client.WriteWhole
import LibNfs.Proto.AttrSets
import LibNfs.Proto.Bitmaps
import LibNfs.Proto.CompoundCursor
import LibNfs.Proto.LinkedLists
import LibNfs.Proto.Recording
import LibNfs.Proto.Remote
import LibNfs.Proto.ReplyPath
import LibNfs.Proto.Seqids
import LibNfs.Proto.Serving3
import LibNfs.Proto.SlotSeqids
import LibNfs.Rpc.Calls
import LibNfs.Rpc.Frames
import LibNfs.Rpc.Matching
import LibNfs.Rpc.Portability
import LibNfs.Rpc.RecordBounds
import LibNfs.Rpc.Replies
import LibNfs.Rpc.Runs
import LibNfs.Rpc.Segmentation
import LibNfs.Rpc.StartTls
import LibNfs.Rpc.Twins
import LibNfs.Xdr.Canonical
import LibNfs.Xdr.Truncation
