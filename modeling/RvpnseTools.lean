import RvpnseTools.Build.Batch
import RvpnseTools.Build.Ios
import RvpnseTools.Build.Dist
import RvpnseTools.Build.Trace
import RvpnseTools.Readme.Splice
import RvpnseTools.Readme.Categorize
import RvpnseTools.Build.Artifacts
import RvpnseTools.Build.IosBundle
import RvpnseTools.Build.AndroidBundle
import RvpnseTools.Readme.Runs
import RvpnseTools.Build.Listing
