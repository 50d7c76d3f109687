import BootSector.Bootstrap
import BootSector.DataSectors
import BootSector.Divisions
import BootSector.EndMarks
import BootSector.Extents
import BootSector.Installation
import BootSector.Lookup
import BootSector.PowerOn
import BootSector.Retries
import BootSector.Rewritten
import BootSector.Selection
import BootSector.Tables
import BootSector.Termination
