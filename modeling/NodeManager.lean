import NodeManager.MindReader.Gator
import NodeManager.MindReader.Plugin
import NodeManager.MindReader.Invariant
import NodeManager.MindReader.Ordering
import NodeManager.MindReader.Shutdown
import NodeManager.MindReader.Errors
import NodeManager.MindReader.Uploader
import NodeManager.MindReader.Construct
import NodeManager.Backup.Schedule
import NodeManager.Backup.Registry
